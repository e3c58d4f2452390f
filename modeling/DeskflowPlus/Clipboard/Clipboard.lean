import DeskflowPlus.Lib.BigEndian
import Mathlib.Algebra.Order.BigOperators.Group.List
import Mathlib.Logic.Function.Basic

/-!
# Clipboard contents as one string

`IClipboard::marshall` merges the formats a clipboard holds into one string, and
`IClipboard::unmarshall` fills a clipboard from such a string. What a clipboard holds is a partial
map from the formats to their data, and it is this map that survives the trip.
-/

namespace DeskflowPlus

namespace IClipboard

inductive Format where
  | text
  | html
  | bitmap
  deriving DecidableEq

namespace Format

/-- All formats, in the order of their numbers. -/
def all : List Format := [text, html, bitmap]

def id : Format → Nat
  | text => 0
  | html => 1
  | bitmap => 2

/-- The format a number below `TotalFormats` stands for. -/
def ofId? : Nat → Option Format
  | 0 => some text
  | 1 => some html
  | 2 => some bitmap
  | _ => none

@[simp]
theorem ofId?_id (format : Format) : ofId? format.id = some format := by
  cases format <;> rfl

theorem id_lt (format : Format) : format.id < 3 := by
  cases format <;> decide

theorem mem_all (format : Format) : format ∈ all := by
  cases format <;> decide

end Format

end IClipboard

open IClipboard

structure Clipboard where
  isOpen : Bool := false
  time : UInt32 := 0
  owner : Bool := false
  timeOwned : UInt32 := 0
  added : Format → Bool := fun _ => false
  data : Format → List UInt8 := fun _ => []

namespace Clipboard

variable (clipboard : Clipboard)

/-- `open` in the source. It succeeds in every case, and keeps the earlier time where the clipboard
is open already. -/
def openAt (time : UInt32) : Clipboard :=
  if clipboard.isOpen then clipboard else { clipboard with isOpen := true, time }

def close : Clipboard := { clipboard with isOpen := false }

def empty : Clipboard :=
  if clipboard.isOpen then
    { clipboard with
      data := fun _ => []
      added := fun _ => false
      timeOwned := clipboard.time
      owner := true }
  else clipboard

def add (format : Format) (data : List UInt8) : Clipboard :=
  if clipboard.isOpen = false ∨ clipboard.owner = false then clipboard
  else
    { clipboard with
      data := Function.update clipboard.data format data
      added := Function.update clipboard.added format true }

def has (format : Format) : Bool := clipboard.isOpen && clipboard.added format

def get (format : Format) : List UInt8 := if clipboard.isOpen then clipboard.data format else []

/-- What is in one clipboard, put into another one. Both are open for this. -/
def copy (dst src : Clipboard) (time : UInt32) : Clipboard :=
  let src := src.openAt time
  let formats := Format.all.filter src.has
  (formats.foldl (fun dst format => dst.add format (src.get format)) (dst.openAt time).empty).close

/-- Four bytes, most significant first. The cast of a length to 32 bits keeps its low bytes. -/
def writeUInt32 (value : Nat) : List UInt8 := BigEndian.encode 4 value

def readUInt32 (bytes : List UInt8) : Option (Nat × List UInt8) := BigEndian.readField 4 bytes

def record (format : Format) (data : List UInt8) : List UInt8 :=
  writeUInt32 format.id ++ (writeUInt32 data.length ++ data)

def marshall : List UInt8 × Clipboard :=
  let opened := clipboard.openAt 0
  let formats := Format.all.filter opened.has
  (writeUInt32 formats.length ++ formats.flatMap fun format => record format (opened.get format),
    opened.close)

/-- Data under a format's number. A number from `TotalFormats` on is skipped, and one that is
negative as an `int` passes that check and indexes outside the arrays. -/
def saveFormat (id : Nat) (data : List UInt8) : Option Clipboard :=
  if id < 2 ^ 31 then
    match Format.ofId? id with
    | some format => some (clipboard.add format data)
    | none => some clipboard
  else none

/-- The loop of `unmarshall`. There is no result where it would read behind the string's end. The data
of an unknown format are not read. -/
def readFormats : Nat → List UInt8 → Clipboard → Option Clipboard
  | 0, _, clipboard => some clipboard
  | count + 1, bytes, clipboard => do
    let (id, bytes) ← readUInt32 bytes
    let (size, bytes) ← readUInt32 bytes
    if bytes.length < size ∧ (Format.ofId? id).isSome then none
    else
      let clipboard ← clipboard.saveFormat id (bytes.take size)
      readFormats count (bytes.drop size) clipboard

def unmarshall (data : List UInt8) (time : UInt32) : Option Clipboard := do
  let (numFormats, bytes) ← readUInt32 data
  let clipboard ← readFormats numFormats bytes (clipboard.openAt time).empty
  return clipboard.close

def contents (format : Format) : Option (List UInt8) :=
  if clipboard.added format then some (clipboard.data format) else none

def totalSize : Nat :=
  (Format.all.map fun format => ((clipboard.contents format).getD []).length).sum

variable {clipboard}

@[simp]
theorem isOpen_openAt (time : UInt32) : (clipboard.openAt time).isOpen = true := by
  unfold openAt
  split
  · assumption
  · rfl

@[simp]
theorem contents_openAt (time : UInt32) :
    (clipboard.openAt time).contents = clipboard.contents := by
  unfold openAt
  split <;> rfl

@[simp]
theorem contents_close : clipboard.close.contents = clipboard.contents := rfl

/-- An open clipboard that its user owns, so that data can be added. -/
structure Fillable (clipboard : Clipboard) : Prop where
  isOpen : clipboard.isOpen = true
  owner : clipboard.owner = true

theorem fillable_empty (hopen : clipboard.isOpen = true) : clipboard.empty.Fillable := by
  unfold empty
  rw [if_pos hopen]
  exact ⟨hopen, rfl⟩

theorem contents_empty (hopen : clipboard.isOpen = true) (format : Format) :
    clipboard.empty.contents format = none := by
  unfold empty
  rw [if_pos hopen]
  exact if_neg Bool.false_ne_true

namespace Fillable

theorem add_eq (h : clipboard.Fillable) (format : Format) (data : List UInt8) :
    clipboard.add format data =
      { clipboard with
        data := Function.update clipboard.data format data
        added := Function.update clipboard.added format true } := by
  apply if_neg
  simp [h.isOpen, h.owner]

theorem add (h : clipboard.Fillable) (format : Format) (data : List UInt8) :
    (clipboard.add format data).Fillable := by
  rw [h.add_eq]
  exact ⟨h.isOpen, h.owner⟩

theorem contents_add (h : clipboard.Fillable) (format : Format) (data : List UInt8) :
    (clipboard.add format data).contents =
      Function.update clipboard.contents format (some data) := by
  rw [h.add_eq]
  funext other
  by_cases hother : other = format
  · subst hother
    simp [contents]
  · simp [contents, hother]

theorem contents_foldl_add (h : clipboard.Fillable) (formats : List Format)
    (data : Format → List UInt8) (format : Format) :
    (formats.foldl (fun clipboard format => clipboard.add format (data format)) clipboard).contents
        format =
      if format ∈ formats then some (data format) else clipboard.contents format := by
  induction formats generalizing clipboard with
  | nil => simp
  | cons first formats ih =>
    rw [List.foldl_cons, ih (h.add _ _), h.contents_add]
    by_cases hfirst : format = first
    · subst hfirst
      simp
    · simp [hfirst]

end Fillable

theorem has_openAt (time : UInt32) (format : Format) :
    (clipboard.openAt time).has format = (clipboard.contents format).isSome := by
  have hadded : (clipboard.openAt time).added format = (clipboard.contents format).isSome := by
    rw [← contents_openAt time]
    unfold contents
    cases (clipboard.openAt time).added format <;> rfl
  rw [has, isOpen_openAt, hadded, Bool.true_and]

theorem get_openAt {time : UInt32} {format : Format} {data : List UInt8}
    (h : clipboard.contents format = some data) : (clipboard.openAt time).get format = data := by
  rw [← contents_openAt time] at h
  rw [get, if_pos (isOpen_openAt time)]
  exact Option.some.inj (Option.ite_none_right_eq_some.mp h).2

variable (clipboard) in
def held : List Format := Format.all.filter fun format => (clipboard.contents format).isSome

theorem mem_held {format : Format} :
    format ∈ clipboard.held ↔ (clipboard.contents format).isSome := by
  rw [held, List.mem_filter]
  exact and_iff_right (Format.mem_all format)

/-- The string depends on what the clipboard holds only, not on whether it is open, when it was
opened or who owns it. -/
theorem marshall_eq (clipboard : Clipboard) :
    clipboard.marshall.1 =
      writeUInt32 clipboard.held.length ++
        clipboard.held.flatMap fun format =>
          record format ((clipboard.contents format).getD []) := by
  have hheld : Format.all.filter (clipboard.openAt 0).has = clipboard.held :=
    List.filter_congr fun format _ => has_openAt 0 format
  have hrecord : ∀ format ∈ clipboard.held, record format ((clipboard.openAt 0).get format) =
      record format ((clipboard.contents format).getD []) := by
    intro format hformat
    obtain ⟨data, hdata⟩ := Option.isSome_iff_exists.mp (mem_held.mp hformat)
    rw [get_openAt hdata, hdata, Option.getD_some]
  show writeUInt32 (Format.all.filter (clipboard.openAt 0).has).length ++ _ = _
  rw [hheld, List.flatMap_congr hrecord]

theorem marshall_congr {other : Clipboard} (h : clipboard.contents = other.contents) :
    clipboard.marshall.1 = other.marshall.1 := by
  have hheld : clipboard.held = other.held := by rw [held, held, h]
  rw [marshall_eq, marshall_eq, hheld, h]

theorem saveFormat_id (format : Format) (data : List UInt8) :
    clipboard.saveFormat format.id data = some (clipboard.add format data) := by
  have hid := format.id_lt
  have hsmall : format.id < 2 ^ 31 := by omega
  rw [saveFormat, if_pos hsmall, Format.ofId?_id]

theorem readUInt32_writeUInt32 {value : Nat} (hvalue : value < 2 ^ 32) (rest : List UInt8) :
    readUInt32 (writeUInt32 value ++ rest) = some (value, rest) :=
  BigEndian.readField_encode hvalue rest

theorem readFormats_record {format : Format} {data : List UInt8} (hsize : data.length < 2 ^ 32)
    (count : Nat) (rest : List UInt8) :
    readFormats (count + 1) (record format data ++ rest) clipboard =
      readFormats count rest (clipboard.add format data) := by
  have hid : format.id < 2 ^ 32 := by
    have := format.id_lt
    omega
  have hlong : ¬ ((data ++ rest).length < data.length ∧ (Format.ofId? format.id).isSome) := by simp
  rw [readFormats, record, List.append_assoc, readUInt32_writeUInt32 hid, Option.bind_eq_bind,
    Option.bind_some]
  dsimp only
  rw [List.append_assoc, readUInt32_writeUInt32 hsize, Option.bind_eq_bind, Option.bind_some]
  dsimp only
  rw [if_neg hlong, List.take_left' rfl, List.drop_left' rfl, saveFormat_id]
  rfl

theorem readFormats_records {formats : List Format} {data : Format → List UInt8}
    (hsize : ∀ format ∈ formats, (data format).length < 2 ^ 32) :
    readFormats formats.length (formats.flatMap fun format => record format (data format))
        clipboard =
      some
        (formats.foldl (fun clipboard format => clipboard.add format (data format)) clipboard) := by
  induction formats generalizing clipboard with
  | nil => rfl
  | cons first formats ih =>
    have hfirst := hsize first List.mem_cons_self
    have hrest := fun format hformat => hsize format (List.mem_cons_of_mem first hformat)
    rw [List.length_cons, List.flatMap_cons, readFormats_record hfirst, ih hrest, List.foldl_cons]

theorem length_le_totalSize (format : Format) :
    ((clipboard.contents format).getD []).length ≤ clipboard.totalSize := by
  apply List.single_le_sum (fun _ _ => Nat.zero_le _)
  exact List.mem_map_of_mem (Format.mem_all format)

theorem Fillable.contents_foldl_held {target : Clipboard} (h : target.Fillable)
    (hempty : ∀ format, target.contents format = none) (source : Clipboard) :
    (source.held.foldl
      (fun clipboard format => clipboard.add format ((source.contents format).getD []))
        target).contents = source.contents := by
  funext format
  rw [h.contents_foldl_add source.held fun format => (source.contents format).getD [], hempty]
  by_cases hformat : format ∈ source.held
  · obtain ⟨bytes, hbytes⟩ := Option.isSome_iff_exists.mp (mem_held.mp hformat)
    rw [if_pos hformat, hbytes, Option.getD_some]
  · rw [if_neg hformat]
    exact (Option.not_isSome_iff_eq_none.mp (mt mem_held.mpr hformat)).symm

@[simp]
theorem contents_copy (dst src : Clipboard) (time : UInt32) :
    (dst.copy src time).contents = src.contents := by
  have hheld : Format.all.filter (src.openAt time).has = src.held :=
    List.filter_congr fun format _ => has_openAt time format
  have hget : ∀ format ∈ src.held, ∀ target : Clipboard,
      target.add format ((src.openAt time).get format) =
        target.add format ((src.contents format).getD []) := by
    intro format hformat target
    obtain ⟨data, hdata⟩ := Option.isSome_iff_exists.mp (mem_held.mp hformat)
    rw [get_openAt hdata, hdata, Option.getD_some]
  rw [copy, hheld, contents_close, List.foldl_ext _ _ _ fun target format hformat =>
    hget format hformat target]
  exact (fillable_empty (isOpen_openAt time)).contents_foldl_held
    (contents_empty (isOpen_openAt time)) src

theorem exists_unmarshall (source target : Clipboard) (time : UInt32)
    (hsize : source.totalSize < 2 ^ 32) :
    ∃ result, target.unmarshall source.marshall.1 time = some result ∧
      result.contents = source.contents := by
  let data (format : Format) : List UInt8 := (source.contents format).getD []
  let start := (target.openAt time).empty
  let filled := source.held.foldl (fun clipboard format => clipboard.add format (data format)) start
  have hstart : start.Fillable := fillable_empty (isOpen_openAt time)
  have hcount : source.held.length < 2 ^ 32 := by
    have hlength : source.held.length ≤ Format.all.length := List.length_filter_le _ _
    have hall : Format.all.length = 3 := rfl
    omega
  have hdata (format : Format) (_ : format ∈ source.held) : (data format).length < 2 ^ 32 :=
    (length_le_totalSize format).trans_lt hsize
  have hfilled : filled.contents = source.contents :=
    hstart.contents_foldl_held (contents_empty (isOpen_openAt time)) source
  have hfill : readFormats source.held.length
      (source.held.flatMap fun format => record format (data format)) start = some filled :=
    readFormats_records hdata
  refine ⟨filled.close, ?_, hfilled⟩
  rw [unmarshall, marshall_eq, readUInt32_writeUInt32 hcount, Option.bind_eq_bind, Option.bind_some]
  dsimp only
  rw [hfill]
  rfl

/-- **The round trip.** A string made from any clipboard fills any other one, open or not and
whatever it holds, with the same formats and the same data, which make the same string again. -/
theorem unmarshall_marshall (source target : Clipboard) (time : UInt32)
    (hsize : source.totalSize < 2 ^ 32) :
    ∃ result, target.unmarshall source.marshall.1 time = some result ∧
      result.contents = source.contents ∧ result.marshall.1 = source.marshall.1 := by
  obtain ⟨result, hresult, hcontents⟩ := exists_unmarshall source target time hsize
  exact ⟨result, hresult, hcontents, marshall_congr hcontents⟩

/-- Text and an empty bitmap, into an open clipboard that holds another format. -/
theorem unmarshall_marshall_into_open :
    let source : Clipboard :=
      { added := fun format => format ≠ .html
        data := fun format => if format = .text then [72, 105] else [] }
    let target : Clipboard := { isOpen := true, added := fun format => format = .html }
    source.totalSize < 2 ^ 32 ∧
      ∃ result, target.unmarshall source.marshall.1 7 = some result ∧
        result.contents = source.contents ∧ result.marshall.1 = source.marshall.1 :=
  ⟨by decide, unmarshall_marshall _ _ 7 (by decide)⟩

end Clipboard

end DeskflowPlus
