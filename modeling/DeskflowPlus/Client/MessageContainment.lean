import DeskflowPlus.Client.ServerMessages

/-!
# Malformed messages

A packet that is not one complete message is contained when it disconnects the client or is
discarded as a unit. The loop of the client knows no packets: fields that a packet is short of are
read from the packets behind it or left as they were, bytes behind the fields are the next code, and
behind an unknown code everything that is ready is discarded.
-/

namespace DeskflowPlus

namespace ProtocolUtil

/-- What the fields at the front of a packet are. A string that the packet is short of has the length
it claims. -/
inductive Parsed (Value : Type) where
  | complete (value : Value) (rest : List UInt8)
  | truncated (claimed : Option Nat)
  | tooLong

namespace Parsed

variable {Value Next : Type}

def bind (parsed : Parsed Value) (next : Value → List UInt8 → Parsed Next) : Parsed Next :=
  match parsed with
  | complete value rest => next value rest
  | truncated claimed => truncated claimed
  | tooLong => tooLong

end Parsed

def parseBytes (size : Nat) (bytes : List UInt8) : Parsed (List UInt8) :=
  if size ≤ bytes.length then .complete (bytes.take size) (bytes.drop size) else .truncated none

def parseElements (size : Nat) : Nat → List Nat → List UInt8 → Parsed Argument
  | 0, values, bytes => .complete (.vector values) bytes
  | count + 1, values, bytes =>
    (parseBytes size bytes).bind fun element rest =>
      parseElements size count (values ++ [BigEndian.decode element]) rest

def parseField : MessageField → List UInt8 → Parsed Argument
  | .int size, bytes =>
    (parseBytes size bytes).bind fun value rest => .complete (.int (BigEndian.decode value)) rest
  | .vector size, bytes =>
    (parseBytes 4 bytes).bind fun header rest =>
      if PROTOCOL_MAX_LIST_LENGTH < BigEndian.decode header then .tooLong
      else parseElements size (BigEndian.decode header) [] rest
  | .string, bytes =>
    (parseBytes 4 bytes).bind fun header rest =>
      if BigEndian.decode header ≤ rest.length then
        .complete (.string (rest.take (BigEndian.decode header)))
          (rest.drop (BigEndian.decode header))
      else .truncated (some (BigEndian.decode header))

def parseFields : List MessageField → List UInt8 → Parsed (List Argument)
  | [], bytes => .complete [] bytes
  | field :: fields, bytes =>
    (parseField field bytes).bind fun argument rest =>
      (parseFields fields rest).bind fun arguments rest => .complete (argument :: arguments) rest

variable {allocates : Nat → Bool} {behind : List (List UInt8)} {bytes : List UInt8}

def Agrees {Value : Type} (allocates : Nat → Bool) (behind : List (List UInt8))
    (read : Read Value) : Parsed Value → Prop
  | .complete value rest => read = { value, reader := .inside rest behind }
  | .truncated claimed =>
    behind = [] → (∀ length ∈ claimed, allocates length = true) →
      read.failure = some .endOfStream ∧ read.reader = {}
  | .tooLong => read.failure = some .badClient

theorem agrees_readElements {size count : Nat} {values : List Nat} :
    Agrees allocates behind (readElements size count values (.inside bytes behind))
      (parseElements size count values bytes) := by
  induction count generalizing values bytes with
  | zero => rfl
  | succ count ih =>
    by_cases hbytes : size ≤ bytes.length
    · rw [readElements, PacketReader.readAll_inside hbytes, parseElements, parseBytes,
        if_pos hbytes]
      exact ih
    · rw [parseElements, parseBytes, if_neg hbytes]
      rintro rfl -
      rw [readElements, PacketReader.readAll_short (Nat.lt_of_not_le hbytes)]
      exact ⟨rfl, rfl⟩

theorem agrees_readField (hmemory : ∀ length ≤ bytes.length, allocates length = true)
    (field : MessageField) :
    Agrees allocates behind (readField allocates field (.inside bytes behind))
      (parseField field bytes) := by
  cases field with
  | int size =>
    by_cases hbytes : size ≤ bytes.length
    · rw [readField, readInt, PacketReader.readAll_inside hbytes, parseField, parseBytes,
        if_pos hbytes]
      rfl
    · rw [parseField, parseBytes, if_neg hbytes]
      rintro rfl -
      rw [readField, readInt, PacketReader.readAll_short (Nat.lt_of_not_le hbytes)]
      exact ⟨rfl, rfl⟩
  | vector size =>
    by_cases hbytes : 4 ≤ bytes.length
    · rw [readField, readVector, PacketReader.readAll_inside hbytes, parseField, parseBytes,
        if_pos hbytes, Parsed.bind]
      dsimp only
      split
      · rfl
      · exact agrees_readElements
    · rw [parseField, parseBytes, if_neg hbytes]
      rintro rfl -
      rw [readField, readVector, PacketReader.readAll_short (Nat.lt_of_not_le hbytes)]
      exact ⟨rfl, rfl⟩
  | string =>
    by_cases hbytes : 4 ≤ bytes.length
    · rw [readField, readBytes, PacketReader.readAll_inside hbytes, parseField, parseBytes,
        if_pos hbytes, Parsed.bind]
      dsimp only
      by_cases hlength : BigEndian.decode (bytes.take 4) ≤ (bytes.drop 4).length
      · have hshort : (bytes.drop 4).length ≤ bytes.length := by simp
        have hallocates := hmemory _ (hlength.trans hshort)
        rw [if_neg fun h => h.2 hallocates, PacketReader.readAll_inside hlength, if_pos hlength]
        rfl
      · rw [if_neg hlength]
        rintro rfl hclaimed
        have hallocates := hclaimed _ rfl
        rw [if_neg fun h => h.2 hallocates,
          PacketReader.readAll_short (Nat.lt_of_not_le hlength)]
        exact ⟨rfl, rfl⟩
    · rw [parseField, parseBytes, if_neg hbytes]
      rintro rfl -
      rw [readField, readBytes, PacketReader.readAll_short (Nat.lt_of_not_le hbytes)]
      exact ⟨rfl, rfl⟩

variable {rest : List UInt8}

theorem length_le_of_parseBytes {size : Nat} {value : List UInt8}
    (h : parseBytes size bytes = .complete value rest) : rest.length ≤ bytes.length := by
  unfold parseBytes at h
  split at h
  · cases h
    simp
  · cases h

theorem Parsed.exists_of_bind {Value Next : Type} {parsed : Parsed Value}
    {next : Value → List UInt8 → Parsed Next} {result : Next}
    (h : parsed.bind next = .complete result rest) :
    ∃ value behind, parsed = .complete value behind ∧ next value behind = .complete result rest := by
  cases parsed with
  | complete value behind => exact ⟨value, behind, rfl, h⟩
  | truncated => cases h
  | tooLong => cases h

theorem length_le_of_parseElements {size count : Nat} {values : List Nat} {argument : Argument}
    (h : parseElements size count values bytes = .complete argument rest) :
    rest.length ≤ bytes.length := by
  induction count generalizing values bytes with
  | zero =>
    cases h
    exact Nat.le_refl _
  | succ count ih =>
    obtain ⟨element, behind, hfirst, hnext⟩ := Parsed.exists_of_bind h
    exact (ih hnext).trans (length_le_of_parseBytes hfirst)

theorem length_le_of_parseField {field : MessageField} {argument : Argument}
    (h : parseField field bytes = .complete argument rest) : rest.length ≤ bytes.length := by
  cases field with
  | int size =>
    obtain ⟨value, behind, hfirst, hnext⟩ := Parsed.exists_of_bind h
    cases hnext
    exact length_le_of_parseBytes hfirst
  | vector size =>
    obtain ⟨header, behind, hfirst, hnext⟩ := Parsed.exists_of_bind h
    split at hnext
    · cases hnext
    · exact (length_le_of_parseElements hnext).trans (length_le_of_parseBytes hfirst)
  | string =>
    obtain ⟨header, behind, hfirst, hnext⟩ := Parsed.exists_of_bind h
    split at hnext
    · cases hnext
      rw [List.length_drop]
      exact (Nat.sub_le _ _).trans (length_le_of_parseBytes hfirst)
    · cases hnext

theorem agrees_readf (hmemory : ∀ length ≤ bytes.length, allocates length = true)
    (fields : List MessageField) :
    Agrees allocates behind (readf allocates fields (.inside bytes behind))
      (parseFields fields bytes) := by
  induction fields generalizing bytes with
  | nil => rfl
  | cons field fields ih =>
    have hfield : Agrees allocates behind (readField allocates field (.inside bytes behind)) _ :=
      agrees_readField hmemory field
    rw [readf, parseFields]
    dsimp only
    cases hparsed : parseField field bytes with
    | complete argument rest =>
      rw [hparsed] at hfield
      have hread : readField allocates field (.inside bytes behind) =
        { value := argument, reader := .inside rest behind } := hfield
      have hshrinks := length_le_of_parseField hparsed
      have hrest := ih fun length hlength => hmemory length (hlength.trans hshrinks)
      rw [hread]
      dsimp only [Parsed.bind]
      cases hfields : parseFields fields rest with
      | complete arguments last =>
        rw [hfields] at hrest
        have hread : readf allocates fields (.inside rest behind) =
          { value := arguments, reader := .inside last behind } := hrest
        rw [hread]
        rfl
      | truncated claimed =>
        rw [hfields] at hrest
        exact hrest
      | tooLong =>
        rw [hfields] at hrest
        exact hrest
    | truncated claimed =>
      rw [hparsed] at hfield
      intro hbehind hclaimed
      obtain ⟨hfailure, hreader⟩ := hfield hbehind hclaimed
      rw [hfailure]
      exact ⟨rfl, hreader⟩
    | tooLong =>
      rw [hparsed] at hfield
      have hfailure : (readField allocates field (.inside bytes behind)).failure =
        some .badClient := hfield
      rw [hfailure]
      rfl

end ProtocolUtil

open ProtocolUtil

namespace MessageParser

def Reads (parser : MessageParser) (payload : List UInt8) (format : MessageFormat)
    (arguments : List Argument) (rest : List UInt8) : Prop :=
  4 ≤ payload.length ∧ parser.format (payload.take 4) = some format ∧
    parseFields format.fields (payload.drop 4) = .complete arguments rest

def WellFormed (parser : MessageParser) (payload : List UInt8) : Prop :=
  ∃ format arguments, parser.Reads payload format arguments []

end MessageParser

/-- **Containment.** What a client becomes when every well-formed packet is taken as it is, and every
other one disconnects the client, with no arguments but its own, or might not have been sent. -/
inductive Contained : MessageProxy → List (List UInt8) → MessageProxy → Prop
  | done {proxy : MessageProxy} : Contained proxy [] proxy
  | taken {proxy last : MessageProxy} {payload : List UInt8} {rest : List (List UInt8)}
      {format : MessageFormat} {arguments : List Argument}
      (hreads : proxy.parser.Reads payload format arguments [])
      (hopen : (proxy.handle format arguments none).connected = true)
      (hrest : Contained (proxy.handle format arguments none) rest last) :
      Contained proxy (payload :: rest) last
  | closed {proxy : MessageProxy} {payload : List UInt8} {rest : List (List UInt8)}
      {format : MessageFormat} {arguments : List Argument}
      (hreads : proxy.parser.Reads payload format arguments [])
      (hclosed : (proxy.handle format arguments none).connected = false) :
      Contained proxy (payload :: rest) (proxy.handle format arguments none)
  | discarded {proxy last : MessageProxy} {payload : List UInt8} {rest : List (List UInt8)}
      (hmalformed : ¬ proxy.parser.WellFormed payload) (hrest : Contained proxy rest last) :
      Contained proxy (payload :: rest) last
  | disconnected {proxy last : MessageProxy} {payload : List UInt8} {rest : List (List UInt8)}
      (hmalformed : ¬ proxy.parser.WellFormed payload) (hclosed : last.connected = false)
      (hcalls : last.calls = proxy.calls ∨
        ∃ format arguments trailing, proxy.parser.Reads payload format arguments trailing ∧
          last.calls = (proxy.handle format arguments none).calls) :
      Contained proxy (payload :: rest) last

/-- Fields that a packet is short of are not read from the packets behind it, and not used. -/
def ConfinedFields (allocates : Nat → Bool) (format : MessageFormat) (behind : List (List UInt8)) :
    Parsed (List Argument) → Prop
  | .complete _ rest => rest.length < 4
  | .truncated claimed =>
    format.handling ≠ .acts ∧ behind = [] ∧ ∀ length ∈ claimed, allocates length = true
  | .tooLong => True

def ConfinedCode (allocates : Nat → Bool) (fields : List UInt8) (behind : List (List UInt8)) :
    Option MessageFormat → Prop
  | none => behind = []
  | some format =>
    format.handling = .disconnects ∨
      ConfinedFields allocates format behind (parseFields format.fields fields)

/-- The packet does not reach the packets behind it, and nothing is done with fields it lacks. -/
def Confined (allocates : Nat → Bool) (parser : MessageParser) (payload : List UInt8)
    (behind : List (List UInt8)) : Prop :=
  (payload ≠ [] ∧ payload.length ≤ PROTOCOL_MAX_MESSAGE_LENGTH) ∧
    (4 ≤ payload.length →
      ConfinedCode allocates (payload.drop 4) behind (parser.format (payload.take 4)))

section Decidable

variable {allocates : Nat → Bool} {behind : List (List UInt8)}

instance (format : MessageFormat) (parsed : Parsed (List Argument)) :
    Decidable (ConfinedFields allocates format behind parsed) :=
  match parsed with
  | .complete _ _ => inferInstanceAs (Decidable (_ < _))
  | .truncated none => decidable_of_iff (format.handling ≠ .acts ∧ behind = []) (by
      simp [ConfinedFields])
  | .truncated (some claimed) =>
    decidable_of_iff (format.handling ≠ .acts ∧ behind = [] ∧ allocates claimed = true) (by
      simp [ConfinedFields])
  | .tooLong => .isTrue trivial

instance (fields : List UInt8) (format : Option MessageFormat) :
    Decidable (ConfinedCode allocates fields behind format) :=
  match format with
  | none => inferInstanceAs (Decidable (_ = _))
  | some _ => inferInstanceAs (Decidable (_ ∨ _))

instance (parser : MessageParser) (payload : List UInt8) :
    Decidable (Confined allocates parser payload behind) :=
  inferInstanceAs (Decidable (_ ∧ (_ → _)))

end Decidable

namespace MessageProxy

variable {proxy : MessageProxy} {payload : List UInt8} {behind : List (List UInt8)}
  {allocates : Nat → Bool} {format : MessageFormat} {arguments : List Argument}

/-- What a packet that is confined makes of the client. -/
def confine (proxy : MessageProxy) (payload : List UInt8) : MessageProxy :=
  if payload.length < 4 then proxy.disconnect
  else
    match proxy.parser.format (payload.take 4) with
    | none => proxy
    | some format =>
      if format.handling = .disconnects then proxy.disconnect
      else
        match parseFields format.fields (payload.drop 4) with
        | .complete arguments rest =>
          if rest = [] then proxy.handle format arguments none
          else (proxy.handle format arguments none).disconnect
        | .truncated _ => proxy
        | .tooLong => proxy.disconnect

/-- As long as the client is connected, every packet is confined. -/
def ConfinedAll (allocates : Nat → Bool) : MessageProxy → List (List UInt8) → Prop
  | _, [] => True
  | proxy, payload :: behind =>
    Confined allocates proxy.parser payload behind ∧
      ((proxy.confine payload).connected = true →
        ConfinedAll allocates (proxy.confine payload) behind)

instance decidableConfinedAll : (proxy : MessageProxy) → (packets : List (List UInt8)) →
    Decidable (ConfinedAll allocates proxy packets)
  | _, [] => .isTrue trivial
  | proxy, payload :: behind =>
    have := decidableConfinedAll (proxy.confine payload) behind
    inferInstanceAs (Decidable (_ ∧ (_ → _)))

theorem connected_handle (hformat : format.handling ≠ .disconnects)
    {failure : Option ReadFailure} :
    (proxy.handle format arguments failure).connected = proxy.connected := by
  unfold handle
  split
  · rfl
  · split <;> rfl
  · rfl
  · contradiction

theorem handle_of_disconnects (hformat : format.handling = .disconnects)
    {failure : Option ReadFailure} :
    proxy.handle format arguments failure = proxy.disconnect := by
  rw [handle, hformat]

theorem handle_of_unread (hformat : format.handling ≠ .acts)
    (hclose : format.handling ≠ .disconnects) {failure : ReadFailure} :
    proxy.handle format arguments (some failure) = proxy := by
  unfold handle
  split
  · contradiction
  · exact if_neg nofun
  · rfl
  · contradiction

/-- The cases of `confine`. -/
inductive Confinement (proxy : MessageProxy) (payload : List UInt8) : MessageProxy → Prop
  | incomplete (hlength : payload.length < 4) : Confinement proxy payload proxy.disconnect
  | unknown (hlength : 4 ≤ payload.length) (hformat : proxy.parser.format (payload.take 4) = none) :
      Confinement proxy payload proxy
  | closing {format : MessageFormat} (hlength : 4 ≤ payload.length)
      (hformat : proxy.parser.format (payload.take 4) = some format)
      (hhandling : format.handling = .disconnects) : Confinement proxy payload proxy.disconnect
  | complete {format : MessageFormat} {arguments : List Argument}
      (hreads : proxy.parser.Reads payload format arguments [])
      (hhandling : format.handling ≠ .disconnects) :
      Confinement proxy payload (proxy.handle format arguments none)
  | trailing {format : MessageFormat} {arguments : List Argument} {rest : List UInt8}
      (hreads : proxy.parser.Reads payload format arguments rest) (hrest : rest ≠ [])
      (hhandling : format.handling ≠ .disconnects) :
      Confinement proxy payload (proxy.handle format arguments none).disconnect
  | truncated {format : MessageFormat} {claimed : Option Nat} (hlength : 4 ≤ payload.length)
      (hformat : proxy.parser.format (payload.take 4) = some format)
      (hhandling : format.handling ≠ .disconnects)
      (hparsed : parseFields format.fields (payload.drop 4) = .truncated claimed) :
      Confinement proxy payload proxy
  | tooLong {format : MessageFormat} (hlength : 4 ≤ payload.length)
      (hformat : proxy.parser.format (payload.take 4) = some format)
      (hhandling : format.handling ≠ .disconnects)
      (hparsed : parseFields format.fields (payload.drop 4) = .tooLong) :
      Confinement proxy payload proxy.disconnect

theorem confinement (proxy : MessageProxy) (payload : List UInt8) :
    Confinement proxy payload (proxy.confine payload) := by
  unfold confine
  split
  · exact .incomplete ‹_›
  rename_i hlength
  replace hlength := Nat.not_lt.mp hlength
  split
  · exact .unknown hlength ‹_›
  rename_i format hformat
  split
  · exact .closing hlength hformat ‹_›
  rename_i hhandling
  split
  · rename_i arguments rest hparsed
    split
    · rename_i hrest
      subst hrest
      exact .complete ⟨hlength, hformat, hparsed⟩ hhandling
    · exact .trailing ⟨hlength, hformat, hparsed⟩ ‹_› hhandling
  · exact .truncated hlength hformat hhandling ‹_›
  · exact .tooLong hlength hformat hhandling ‹_›

theorem contained_of_confinement (hproxy : proxy.connected = true) {next : MessageProxy}
    (h : Confinement proxy payload next) :
    (next.connected = true → ∀ rest last,
        Contained next rest last → Contained proxy (payload :: rest) last) ∧
      (next.connected = false → ∀ rest, Contained proxy (payload :: rest) next) := by
  cases h with
  | incomplete hlength =>
    have hmalformed : ¬ proxy.parser.WellFormed payload := by
      rintro ⟨_, _, hlong, -⟩
      omega
    exact ⟨nofun, fun _ rest => .disconnected hmalformed rfl (.inl rfl)⟩
  | unknown hlength hformat =>
    have hmalformed : ¬ proxy.parser.WellFormed payload := by
      rintro ⟨_, _, -, hknown, -⟩
      rw [hformat] at hknown
      cases hknown
    refine ⟨fun _ rest last hrest => .discarded hmalformed hrest, fun hclosed => ?_⟩
    rw [hproxy] at hclosed
    cases hclosed
  | @closing format hlength hformat hhandling =>
    refine ⟨nofun, fun _ rest => ?_⟩
    by_cases hwellFormed : proxy.parser.WellFormed payload
    · obtain ⟨format', arguments, hreads⟩ := hwellFormed
      obtain rfl : format = format' := Option.some.inj (hformat.symm.trans hreads.2.1)
      have hclosed := @handle_of_disconnects proxy format arguments hhandling none
      rw [← hclosed]
      exact .closed hreads (hclosed ▸ rfl)
    · exact .disconnected hwellFormed rfl (.inl rfl)
  | @complete format arguments hreads hhandling =>
    have hopen : (proxy.handle format arguments none).connected = true := by
      rw [connected_handle hhandling, hproxy]
    refine ⟨fun _ rest last hrest => .taken hreads hopen hrest, fun hclosed => ?_⟩
    rw [hopen] at hclosed
    cases hclosed
  | trailing hreads hrest hhandling =>
    have hmalformed : ¬ proxy.parser.WellFormed payload := by
      rintro ⟨format, arguments, hwhole⟩
      obtain rfl := Option.some.inj (hreads.2.1.symm.trans hwhole.2.1)
      have hparsed := hreads.2.2.symm.trans hwhole.2.2
      injection hparsed with _ hnone
      exact hrest hnone
    refine ⟨nofun, fun _ rest => .disconnected hmalformed rfl (.inr ?_)⟩
    exact ⟨_, _, _, hreads, rfl⟩
  | truncated hlength hformat hhandling hparsed =>
    have hmalformed : ¬ proxy.parser.WellFormed payload := by
      rintro ⟨format, arguments, hwhole⟩
      obtain rfl := Option.some.inj (hformat.symm.trans hwhole.2.1)
      have hparsed := hparsed.symm.trans hwhole.2.2
      cases hparsed
    refine ⟨fun _ rest last hrest => .discarded hmalformed hrest, fun hclosed => ?_⟩
    rw [hproxy] at hclosed
    cases hclosed
  | tooLong hlength hformat hhandling hparsed =>
    have hmalformed : ¬ proxy.parser.WellFormed payload := by
      rintro ⟨format, arguments, hwhole⟩
      obtain rfl := Option.some.inj (hformat.symm.trans hwhole.2.1)
      have hparsed := hparsed.symm.trans hwhole.2.2
      cases hparsed
    exact ⟨nofun, fun _ rest => .disconnected hmalformed rfl (.inl rfl)⟩

theorem handleMessages_short (hpayload : payload ≠ []) (hlength : payload.length < 4) (rounds : Nat) :
    (handleMessages allocates (rounds + 1) proxy (.inside payload behind)).1 = proxy.disconnect := by
  have hall : payload.take 4 = payload := List.take_of_length_le hlength.le
  rw [handleMessages, PacketReader.read_inside (by decide) hpayload]
  dsimp only
  rw [hall, if_neg hpayload, if_pos (Nat.ne_of_lt hlength)]

theorem handleMessages_code (hlength : 4 ≤ payload.length) (rounds : Nat) :
    handleMessages allocates (rounds + 1) proxy (.inside payload behind) =
      match proxy.parser.format (payload.take 4) with
      | none =>
        let reader := PacketReader.inside (payload.drop 4) behind
        handleMessages allocates rounds proxy (reader.discard reader.size)
      | some format =>
        let message := readf allocates format.fields (.inside (payload.drop 4) behind)
        if message.failure = some .badClient then (proxy.disconnect, message.reader)
        else
          let handled := proxy.handle format message.value message.failure
          if handled.connected then handleMessages allocates rounds handled message.reader
          else (handled, message.reader) := by
  have hpayload : payload ≠ [] := by
    rintro rfl
    exact absurd hlength (by decide)
  have hcode : (payload.take 4).length = 4 := List.length_take_of_le hlength
  have hnonempty : payload.take 4 ≠ [] := by
    intro hnone
    rw [hnone] at hcode
    cases hcode
  rw [handleMessages, PacketReader.read_inside (by decide) hpayload]
  dsimp only
  refine (if_neg hnonempty).trans ((if_neg (not_not.mpr hcode)).trans ?_)
  cases proxy.parser.format (payload.take 4) <;> rfl

theorem handleMessages_of_confinement
    (hmemory : ∀ length ≤ PROTOCOL_MAX_MESSAGE_LENGTH, allocates length = true)
    (hconfined : Confined allocates proxy.parser payload behind) (hproxy : proxy.connected = true)
    {next : MessageProxy} (h : Confinement proxy payload next) (rounds : Nat) :
    (next.connected = true →
        handleMessages allocates (rounds + 2) proxy (.next (payload :: behind)) =
          handleMessages allocates (rounds + 1) next (.next behind)) ∧
      (next.connected = false →
        (handleMessages allocates (rounds + 2) proxy (.next (payload :: behind))).1 = next) := by
  obtain ⟨⟨hpayload, hmax⟩, hconfined⟩ := hconfined
  have hnext : PacketReader.next (payload :: behind) = .inside payload behind :=
    (PacketReader.inside_of_ne hpayload).symm
  have hmemory (length : Nat) (h : length ≤ (payload.drop 4).length) : allocates length = true := by
    apply hmemory
    rw [List.length_drop] at h
    omega
  have hagrees (format : MessageFormat) :
      Agrees allocates behind (readf allocates format.fields (.inside (payload.drop 4) behind))
        (parseFields format.fields (payload.drop 4)) := agrees_readf hmemory format.fields
  rw [hnext]
  cases h with
  | incomplete hlength => exact ⟨nofun, fun _ => handleMessages_short hpayload hlength _⟩
  | unknown hlength hformat =>
    have hbehind : behind = [] := by
      have hconfined := hconfined hlength
      rw [hformat] at hconfined
      exact hconfined
    refine ⟨fun _ => ?_, fun hclosed => ?_⟩
    · subst hbehind
      rw [handleMessages_code hlength, hformat]
      dsimp only
      rw [PacketReader.size_inside_nil, PacketReader.discard_inside (Nat.le_refl _)]
      rfl
    · rw [hproxy] at hclosed
      cases hclosed
  | @closing format hlength hformat hhandling =>
    refine ⟨nofun, fun _ => ?_⟩
    rw [handleMessages_code hlength, hformat]
    dsimp only
    split
    · rfl
    · rw [handle_of_disconnects hhandling]
      rfl
  | @complete format arguments hreads hhandling =>
    obtain ⟨hlength, hformat, hparsed⟩ := hreads
    have hread := hagrees format
    rw [hparsed] at hread
    have hread : readf allocates format.fields (.inside (payload.drop 4) behind) =
      { value := arguments, reader := .next behind } := hread
    have hopen : (proxy.handle format arguments none).connected = true := by
      rw [connected_handle hhandling, hproxy]
    refine ⟨fun _ => ?_, fun hclosed => ?_⟩
    · rw [handleMessages_code hlength, hformat]
      dsimp only
      rw [hread]
      exact if_pos hopen
    · rw [hopen] at hclosed
      cases hclosed
  | @trailing format arguments rest hreads hrest hhandling =>
    obtain ⟨hlength, hformat, hparsed⟩ := hreads
    have hread := hagrees format
    rw [hparsed] at hread
    have hread : readf allocates format.fields (.inside (payload.drop 4) behind) =
      { value := arguments, reader := .inside rest behind } := hread
    have hshort : rest.length < 4 := by
      have hconfined := hconfined hlength
      rw [hformat] at hconfined
      have hconfined := hconfined.resolve_left hhandling
      rw [hparsed] at hconfined
      exact hconfined
    have hopen : (proxy.handle format arguments none).connected = true := by
      rw [connected_handle hhandling, hproxy]
    refine ⟨nofun, fun _ => ?_⟩
    rw [handleMessages_code hlength, hformat]
    dsimp only
    rw [hread]
    dsimp only
    rw [if_neg nofun, if_pos hopen]
    exact handleMessages_short hrest hshort _
  | @truncated format claimed hlength hformat hhandling hparsed =>
    have hconfined := hconfined hlength
    rw [hformat] at hconfined
    have hconfined := hconfined.resolve_left hhandling
    rw [hparsed] at hconfined
    obtain ⟨hacts, hbehind, hclaimed⟩ := hconfined
    have hread := hagrees format
    rw [hparsed] at hread
    obtain ⟨hfailure, hreader⟩ := hread hbehind hclaimed
    refine ⟨fun _ => ?_, fun hclosed => ?_⟩
    · rw [handleMessages_code hlength, hformat]
      dsimp only
      rw [hfailure, hreader, handle_of_unread hacts hhandling, if_neg (by decide), if_pos hproxy,
        hbehind]
      rfl
    · rw [hproxy] at hclosed
      cases hclosed
  | @tooLong format hlength hformat hhandling hparsed =>
    have hread := hagrees format
    rw [hparsed] at hread
    have hfailure : (readf allocates format.fields (.inside (payload.drop 4) behind)).failure =
      some .badClient := hread
    refine ⟨nofun, fun _ => ?_⟩
    rw [handleMessages_code hlength, hformat]
    dsimp only
    rw [if_pos hfailure]

theorem contained_handleMessages
    (hmemory : ∀ length ≤ PROTOCOL_MAX_MESSAGE_LENGTH, allocates length = true)
    {packets : List (List UInt8)} (hconfined : proxy.ConfinedAll allocates packets)
    (hproxy : proxy.connected = true) {rounds : Nat} (hrounds : packets.flatten.length < rounds) :
    Contained proxy packets (handleMessages allocates rounds proxy (.next packets)).1 ∧
      ((handleMessages allocates rounds proxy (.next packets)).1.connected = true →
        (handleMessages allocates rounds proxy (.next packets)).2 = {}) := by
  induction packets generalizing proxy rounds with
  | nil =>
    obtain ⟨rounds, rfl⟩ := Nat.exists_eq_succ_of_ne_zero (Nat.ne_of_gt hrounds)
    exact ⟨.done, fun _ => rfl⟩
  | cons payload behind ih =>
    obtain ⟨hfirst, hrest⟩ := hconfined
    have hpayload : 0 < payload.length := List.length_pos_iff.mpr hfirst.1.1
    rw [List.flatten_cons, List.length_append] at hrounds
    obtain ⟨rounds, rfl⟩ : ∃ left, rounds = left + 2 := ⟨rounds - 2, by omega⟩
    have hrounds : behind.flatten.length < rounds + 1 := by omega
    obtain ⟨hopen, hclosed⟩ :=
      handleMessages_of_confinement hmemory hfirst hproxy (confinement proxy payload) rounds
    obtain ⟨htaken, hdropped⟩ := contained_of_confinement hproxy (confinement proxy payload)
    cases hnext : (proxy.confine payload).connected with
    | true =>
      rw [hopen hnext]
      obtain ⟨hcontained, hreader⟩ := ih (hrest hnext) hnext hrounds
      exact ⟨htaken hnext _ _ hcontained, hreader⟩
    | false =>
      refine ⟨?_, fun hconnected => ?_⟩
      · rw [hclosed hnext]
        exact hdropped hnext behind
      · rw [hclosed hnext, hnext] at hconnected
        cases hconnected

end MessageProxy

namespace Contained

variable {proxy middle last : MessageProxy} {packets : List (List UInt8)}

theorem append (h : Contained proxy packets middle) (hproxy : proxy.connected = true) :
    (middle.connected = true → ∀ more last,
        Contained middle more last → Contained proxy (packets ++ more) last) ∧
      (middle.connected = false → ∀ more, Contained proxy (packets ++ more) middle) := by
  induction h with
  | done =>
    refine ⟨fun _ more last hmore => hmore, fun hclosed => ?_⟩
    rw [hproxy] at hclosed
    cases hclosed
  | taken hreads hopen _ ih =>
    obtain ⟨hconnected, hclosed⟩ := ih hopen
    exact ⟨fun hmiddle more last hmore => .taken hreads hopen (hconnected hmiddle more last hmore),
      fun hmiddle more => .taken hreads hopen (hclosed hmiddle more)⟩
  | closed hreads hclosed =>
    refine ⟨fun hopen => ?_, fun _ more => .closed hreads hclosed⟩
    rw [hclosed] at hopen
    cases hopen
  | discarded hmalformed _ ih =>
    obtain ⟨hconnected, hclosed⟩ := ih hproxy
    exact ⟨fun hmiddle more last hmore => .discarded hmalformed (hconnected hmiddle more last hmore),
      fun hmiddle more => .discarded hmalformed (hclosed hmiddle more)⟩
  | disconnected hmalformed hclosed hcalls =>
    refine ⟨fun hopen => ?_, fun _ more => .disconnected hmalformed hclosed hcalls⟩
    rw [hclosed] at hopen
    cases hopen

theorem mem_calls_handle {format : MessageFormat} {arguments : List Argument} {call : HandlerCall}
    (h : call ∈ (proxy.handle format arguments none).calls) :
    call ∈ proxy.calls ∨ call = { code := format.code, arguments } := by
  have hcalled (h : call ∈ (proxy.call format arguments).calls) :
      call ∈ proxy.calls ∨ call = { code := format.code, arguments } := by
    rcases List.mem_append.mp h with hold | hnew
    · exact .inl hold
    · exact .inr (List.mem_singleton.mp hnew)
  unfold MessageProxy.handle at h
  split at h
  · exact hcalled h
  · exact hcalled h
  · exact .inl h
  · exact .inl h

theorem exists_reads (h : Contained proxy packets last) {call : HandlerCall}
    (hcall : call ∈ last.calls) :
    call ∈ proxy.calls ∨
      ∃ payload ∈ packets, ∃ parser format arguments rest,
        MessageParser.Reads parser payload format arguments rest ∧
          call = { code := format.code, arguments } := by
  induction h with
  | done => exact .inl hcall
  | taken hreads _ _ ih =>
    rcases ih hcall with hfirst | ⟨payload, hpayload, hlater⟩
    · rcases mem_calls_handle hfirst with hold | hnew
      · exact .inl hold
      · exact .inr ⟨_, List.mem_cons_self, _, _, _, _, hreads, hnew⟩
    · exact .inr ⟨payload, List.mem_cons_of_mem _ hpayload, hlater⟩
  | closed hreads _ =>
    rcases mem_calls_handle hcall with hold | hnew
    · exact .inl hold
    · exact .inr ⟨_, List.mem_cons_self, _, _, _, _, hreads, hnew⟩
  | discarded _ _ ih =>
    rcases ih hcall with hold | ⟨payload, hpayload, hlater⟩
    · exact .inl hold
    · exact .inr ⟨payload, List.mem_cons_of_mem _ hpayload, hlater⟩
  | disconnected _ _ hcalls =>
    rcases hcalls with hcalls | ⟨format, arguments, rest, hreads, hcalls⟩
    · rw [hcalls] at hcall
      exact .inl hcall
    · rw [hcalls] at hcall
      rcases mem_calls_handle hcall with hold | hnew
      · exact .inl hold
      · exact .inr ⟨_, List.mem_cons_self, _, _, _, _, hreads, hnew⟩

end Contained

namespace MessageProxy

/-- **Containment of malformed messages.** In every run in which each packet that is handled is
confined, every well-formed packet is taken as it is, and every other one disconnects the client or
might not have been sent. -/
theorem contained_of_confined (allocates : Nat → Bool)
    (hmemory : ∀ length ≤ PROTOCOL_MAX_MESSAGE_LENGTH, allocates length = true)
    (proxy : MessageProxy) (hproxy : proxy.connected = true)
    (portions : List (List (List UInt8)))
    (hconfined : Throughout (inputReady allocates)
      (fun packets client => client.1.connected = true → client.1.ConfinedAll allocates packets)
      portions (proxy, {})) :
    Contained proxy portions.flatten (proxy.receive allocates portions) := by
  unfold receive
  induction portions generalizing proxy with
  | nil => exact .done
  | cons packets portions ih =>
    obtain ⟨hpackets, hportions⟩ := hconfined
    let after := inputReady allocates (proxy, {}) packets
    have hafter : after =
        handleMessages allocates (packets.flatten.length + 1) proxy (.next packets) := by
      show (if proxy.connected = true then _ else _) = _
      rw [if_pos hproxy, handleData, PacketReader.arrive, if_pos rfl, List.nil_append,
        PacketReader.size_next]
    obtain ⟨hcontained, hreader⟩ := contained_handleMessages hmemory (hpackets hproxy) hproxy
      (Nat.lt_succ_self packets.flatten.length)
    rw [← hafter] at hcontained hreader
    obtain ⟨hopen, hclosed⟩ := hcontained.append hproxy
    rw [List.flatten_cons, List.foldl_cons]
    cases hconnected : after.1.connected with
    | true =>
      have hclient : after = (after.1, {}) := Prod.ext rfl (hreader hconnected)
      have hlater := ih after.1 hconnected (hclient ▸ hportions)
      rw [← hclient] at hlater
      exact hopen hconnected _ _ hlater
    | false =>
      have hidle (portions : List (List (List UInt8))) :
          portions.foldl (inputReady allocates) after = after := by
        induction portions with
        | nil => rfl
        | cons packets portions ih =>
          have hstays : inputReady allocates after packets = after := by
            rw [inputReady, hconnected]
            rfl
          rw [List.foldl_cons, hstays, ih]
      rw [hidle]
      exact hclosed hconnected _

/-- The first move is one coordinate short, and takes it from the code of the second. -/
theorem move_not_contained :
    ¬ ∀ portions : List (List (List UInt8)),
      Contained {} portions.flatten (({} : MessageProxy).receive (fun _ => true) portions) := by
  intro h
  let portions : List (List (List UInt8)) :=
    [[[68, 83, 79, 80, 0, 0, 0, 0]], [[68, 77, 77, 86, 0, 5], [68, 77, 77, 86, 0, 1, 0, 2]]]
  let move : HandlerCall := { code := "DMMV", arguments := [.int 5, .int 17485] }
  have hcall : move ∈ (({} : MessageProxy).receive (fun _ => true) portions).calls := by decide
  let reading (parser : MessageParser) (payload : List UInt8) : Option (List Argument) :=
    (parser.format (payload.take 4)).bind fun format =>
      match parseFields format.fields (payload.drop 4) with
      | .complete arguments _ => some arguments
      | _ => none
  have hnowhere : ∀ payload ∈ portions.flatten,
      reading .parseHandshakeMessage payload ≠ some move.arguments ∧
        reading .parseMessage payload ≠ some move.arguments := by decide
  rcases (h portions).exists_reads hcall with hnone | ⟨payload, hpayload, parser, format, arguments,
    rest, ⟨-, hformat, hparsed⟩, hmove⟩
  · cases hnone
  have hread : reading parser payload = some move.arguments := by
    show (parser.format (payload.take 4)).bind _ = _
    rw [hformat]
    show (match parseFields format.fields (payload.drop 4) with
      | .complete arguments _ => some arguments
      | _ => none) = _
    rw [hparsed, hmove]
  cases parser with
  | parseHandshakeMessage => exact (hnowhere payload hpayload).1 hread
  | parseMessage => exact (hnowhere payload hpayload).2 hread

/-- A heartbeat, an unknown message, and a heartbeat, each ready on its own. -/
theorem contained_of_confined_heartbeats :
    let heartbeat : List UInt8 := [67, 65, 76, 86]
    let portions : List (List (List UInt8)) := [[heartbeat], [[63, 63, 63, 63, 1]], [heartbeat]]
    Contained {} portions.flatten (({} : MessageProxy).receive (fun _ => true) portions) :=
  contained_of_confined _ (fun _ _ => rfl) {} rfl _ (by decide)

end MessageProxy

end DeskflowPlus
