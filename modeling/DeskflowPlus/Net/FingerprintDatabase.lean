import DeskflowPlus.Trust.DeviceIdText

/-!
# The fingerprints that are trusted

A database is kept as text, a line for each fingerprint with the version of the format, the type and
the digest in hexadecimal digits. Lines of an older format without a type are read as well. What is
read keeps only the fingerprints whose digest has the length of its type.
-/

namespace DeskflowPlus

open Transfer

structure QtLowerCase where
  toLower : QString → QString
  toLower_ascii : ∀ text : QString, (∀ unit ∈ text, unit < 0x80) →
    toLower text = text.map fun unit => if 0x41 ≤ unit ∧ unit ≤ 0x5a then unit + 0x20 else unit

namespace QtLowerCase

def ascii : QtLowerCase where
  toLower text := text.map fun unit => if 0x41 ≤ unit ∧ unit ≤ 0x5a then unit + 0x20 else unit
  toLower_ascii _ _ := rfl

theorem toLower_eq_self {qt : QtLowerCase} {text : QString}
    (h : ∀ unit ∈ text, unit < 0x80 ∧ ¬ (0x41 ≤ unit ∧ unit ≤ 0x5a)) : qt.toLower text = text := by
  rw [qt.toLower_ascii text fun unit hunit => (h unit hunit).1]
  calc
    text.map (fun unit => if 0x41 ≤ unit ∧ unit ≤ 0x5a then unit + 0x20 else unit) =
        text.map id := List.map_congr_left fun unit hunit => if_neg (h unit hunit).2
    _ = text := List.map_id text

end QtLowerCase

namespace Transfer.QByteArray

def ofLatin1 (text : QString) : QByteArray :=
  text.map fun unit => if unit ≤ 0xff then unit.toUInt8 else 0x3f

def fromHexDigit (ch : UInt8) (state : Bool × QByteArray) : Bool × QByteArray :=
  match QString.hexDigitValue ch.toUInt16, state with
  | none, state => state
  | some digit, (true, result) => (false, UInt8.ofNat digit :: result)
  | some digit, (false, byte :: result) => (true, (byte ||| UInt8.ofNat (16 * digit)) :: result)
  | some _, (false, []) => (true, [])

def fromHex (hexEncoded : QByteArray) : QByteArray := (hexEncoded.foldr fromHexDigit (true, [])).2

end Transfer.QByteArray

namespace QCryptographicHash

/-- The algorithms that are told apart, and the others by their numbers. -/
inductive Algorithm where
  | md4
  | sha1
  | sha256
  | other (value : Nat)
  deriving DecidableEq

end QCryptographicHash

open QCryptographicHash (Algorithm)

structure Fingerprint where
  type : Algorithm := .md4
  data : QByteArray := []
  deriving DecidableEq

namespace Fingerprint

def typeSha1 : QString := QString.literal "sha1"
def typeSha256 : QString := QString.literal "sha256"
def typeInvalid : QString := QString.literal "invalid"

def isValid (fingerprint : Fingerprint) : Bool :=
  match fingerprint.type with
  | .sha1 => fingerprint.data.length = 20
  | .sha256 => fingerprint.data.length = 32
  | _ => false

def typeToString : Algorithm → QString
  | .sha1 => typeSha1
  | .sha256 => typeSha256
  | _ => typeInvalid

/-- The hexadecimal digits are lower-case as they come. -/
def toDbLine (fingerprint : Fingerprint) : QString :=
  if fingerprint.isValid then
    QString.literal "v2:" ++ typeToString fingerprint.type ++ 0x3a ::
      QString.hex fingerprint.data
  else []

variable (qt : QtLowerCase)

def typeFromString (type : QString) : Algorithm :=
  let t := qt.toLower type
  if t = typeSha1 then .sha1
  else if t = typeSha256 then .sha256
  else .md4

def kSha1ColonCount : Nat := 19
def kSha1HexCharCount : Nat := 40
def kSha1ExpectedSize : Nat := kSha1HexCharCount + kSha1ColonCount

def fromDbLine (line : QString) : Fingerprint :=
  if line = [] then {}
  else if (QString.literal "v2:").isPrefixOf line then
    match line.splitOn 0x3a with
    | [_, type, data] =>
      { type := typeFromString qt type
        data := QByteArray.fromHex (QByteArray.ofLatin1 (qt.toLower data)) }
    | _ => {}
  else if line.length ≠ kSha1ExpectedSize ∨ line.count 0x3a ≠ kSha1ColonCount then {}
  else
    { type := .sha1
      data := QByteArray.fromHex (QByteArray.ofLatin1 (line.filter fun unit => unit ≠ 0x3a)) }

end Fingerprint

inductive QTextStream where
  | unset
  | device (isReadable isWritable : Bool) (text : QString)
  | string (text : QString)
  deriving DecidableEq

namespace QTextStream

/-- The text in front of the next line feed, without a carriage return at its end, and the text
behind it. -/
def readLine (text : QString) : QString × QString :=
  let line := text.takeWhile (· ≠ 0x0a)
  (if line.getLast? = some 0x0d then line.dropLast else line, (text.dropWhile (· ≠ 0x0a)).tail)

theorem readLine_length {text : QString} (h : text ≠ []) : (readLine text).2.length < text.length := by
  have hrest := (List.dropWhile_suffix (l := text) (· ≠ 0x0a)).length_le
  have hpos := List.length_pos_iff.mpr h
  show (text.dropWhile _).tail.length < _
  rw [List.length_tail]
  omega

end QTextStream

structure FingerprintDatabase where
  fingerprints : List Fingerprint := []

namespace FingerprintDatabase

variable (qt : QtLowerCase)

def readLines (database : FingerprintDatabase) (text : QString) : FingerprintDatabase :=
  if h : text = [] then database
  else
    let line := QTextStream.readLine text
    have := QTextStream.readLine_length h
    if line.1 = [] then readLines database line.2
    else
      let fingerprint := Fingerprint.fromDbLine qt line.1
      if fingerprint.isValid then
        readLines { database with fingerprints := database.fingerprints ++ [fingerprint] } line.2
      else readLines database line.2
termination_by text.length

def readStream (database : FingerprintDatabase) : QTextStream → FingerprintDatabase
  | .unset => database
  | .device isReadable _ text => if isReadable then database.readLines qt text else database
  | .string text => if text = [] then database else database.readLines qt text

def lines (fingerprints : List Fingerprint) : QString :=
  fingerprints.flatMap fun fingerprint => fingerprint.toDbLine ++ [0x0a]

def writeStream (database : FingerprintDatabase) : QTextStream → Bool × QTextStream
  | .unset => (false, .unset)
  | .device isReadable isWritable text =>
    if isWritable then (true, .device isReadable isWritable (text ++ lines database.fingerprints))
    else (false, .device isReadable isWritable text)
  | .string text => (true, .string (text ++ lines database.fingerprints))

def isTrusted (database : FingerprintDatabase) (fingerprint : Fingerprint) : Bool :=
  database.fingerprints.contains fingerprint

def addTrusted (database : FingerprintDatabase) (fingerprint : Fingerprint) : FingerprintDatabase :=
  if database.isTrusted fingerprint then database
  else { database with fingerprints := database.fingerprints ++ [fingerprint] }

end FingerprintDatabase

namespace Transfer.QByteArray

theorem fromHexDigit_hexDigit {digit : Nat} (h : digit < 16) (state : Bool × QByteArray) :
    fromHexDigit (QString.hexDigit digit).toUInt8 state =
      match state with
      | (true, result) => (false, UInt8.ofNat digit :: result)
      | (false, byte :: result) => (true, (byte ||| UInt8.ofNat (16 * digit)) :: result)
      | (false, []) => (true, []) := by
  have hall : ∀ digit : Fin 16, QString.hexDigitValue
      (QString.hexDigit digit).toUInt8.toUInt16 = some digit.val := by decide
  have hvalue := hall ⟨digit, h⟩
  unfold fromHexDigit
  rw [hvalue]
  rcases state with ⟨_ | _, _ | ⟨byte, result⟩⟩ <;> rfl

theorem or_digits (byte : UInt8) :
    UInt8.ofNat (byte.toNat % 16) ||| UInt8.ofNat (16 * (byte.toNat / 16)) = byte := by
  have hall : ∀ n < 256, UInt8.ofNat (n % 16) ||| UInt8.ofNat (16 * (n / 16)) = UInt8.ofNat n := by
    decide +kernel
  rw [hall byte.toNat byte.toNat_lt, UInt8.ofNat_toNat]

theorem hex_lt {bytes : QByteArray} {unit : UInt16} (h : unit ∈ QString.hex bytes) :
    unit < 0x80 ∧ ¬ (0x41 ≤ unit ∧ unit ≤ 0x5a) ∧ unit ≤ 0xff ∧ unit ≠ 0x0a ∧ unit ≠ 0x0d ∧
      unit ≠ 0x3a := by
  have hall : ∀ digit : Fin 16, let unit := QString.hexDigit digit
      unit < 0x80 ∧ ¬ (0x41 ≤ unit ∧ unit ≤ 0x5a) ∧ unit ≤ 0xff ∧ unit ≠ 0x0a ∧ unit ≠ 0x0d ∧
        unit ≠ 0x3a := by
    decide
  obtain ⟨byte, -, hunit⟩ := List.mem_flatMap.mp h
  have hbyte := byte.toNat_lt
  obtain rfl | hlow := List.mem_cons.mp hunit
  · exact hall ⟨byte.toNat / 16, by omega⟩
  · rw [List.mem_singleton.mp hlow]
    exact hall ⟨byte.toNat % 16, by omega⟩

theorem ofLatin1_hex (bytes : QByteArray) :
    ofLatin1 (QString.hex bytes) = (QString.hex bytes).map UInt16.toUInt8 :=
  List.map_congr_left fun _ hunit => if_pos (hex_lt hunit).2.2.1

theorem fromHex_ofLatin1_hex (bytes : QByteArray) : fromHex (ofLatin1 (QString.hex bytes)) = bytes := by
  have hstate : (ofLatin1 (QString.hex bytes)).foldr fromHexDigit (true, []) = (true, bytes) := by
    rw [ofLatin1_hex]
    induction bytes with
    | nil => rfl
    | cons byte rest ih =>
      have hbyte := byte.toNat_lt
      show fromHexDigit (QString.hexDigit (byte.toNat / 16)).toUInt8
        (fromHexDigit (QString.hexDigit (byte.toNat % 16)).toUInt8
          (((QString.hex rest).map UInt16.toUInt8).foldr fromHexDigit (true, []))) = _
      rw [ih, fromHexDigit_hexDigit (by omega), fromHexDigit_hexDigit (by omega)]
      exact congrArg (fun low => (true, low :: rest)) (or_digits byte)
  exact congrArg Prod.snd hstate

end Transfer.QByteArray

namespace Fingerprint

variable {qt : QtLowerCase} {fingerprint : Fingerprint}

theorem toDbLine_of_isValid (h : fingerprint.isValid = true) :
    fingerprint.toDbLine = [0x3a].intercalate
      [[0x76, 0x32], typeToString fingerprint.type, QString.hex fingerprint.data] := by
  rw [toDbLine, if_pos h, List.intercalate_cons_cons, List.intercalate_cons_cons,
    List.intercalate_singleton]
  simp only [List.append_assoc]
  rfl

theorem type_of_isValid (h : fingerprint.isValid = true) :
    fingerprint.type = .sha1 ∨ fingerprint.type = .sha256 := by
  unfold isValid at h
  cases htype : fingerprint.type with
  | sha1 => exact Or.inl rfl
  | sha256 => exact Or.inr rfl
  | md4 => rw [htype] at h; exact absurd h Bool.false_ne_true
  | other value => rw [htype] at h; exact absurd h Bool.false_ne_true

theorem typeToString_plain (h : fingerprint.isValid = true) :
    ∀ unit ∈ typeToString fingerprint.type, unit < 0x80 ∧ ¬ (0x41 ≤ unit ∧ unit ≤ 0x5a) ∧
      unit ≠ 0x0a ∧ unit ≠ 0x0d ∧ unit ≠ 0x3a := by
  rcases type_of_isValid h with htype | htype
  · rw [htype]
    exact @of_decide_eq_true _ (List.decidableBAll _ _) rfl
  · rw [htype]
    exact @of_decide_eq_true _ (List.decidableBAll _ _) rfl

theorem typeFromString_typeToString (h : fingerprint.isValid = true) :
    typeFromString qt (typeToString fingerprint.type) = fingerprint.type := by
  have hlower : qt.toLower (typeToString fingerprint.type) = typeToString fingerprint.type :=
    QtLowerCase.toLower_eq_self fun unit hunit =>
      ⟨(typeToString_plain h unit hunit).1, (typeToString_plain h unit hunit).2.1⟩
  unfold typeFromString
  rw [hlower]
  rcases type_of_isValid h with htype | htype <;> rw [htype] <;> rfl

theorem splitOn_toDbLine (h : fingerprint.isValid = true) :
    fingerprint.toDbLine.splitOn 0x3a =
      [[0x76, 0x32], typeToString fingerprint.type, QString.hex fingerprint.data] := by
  rw [toDbLine_of_isValid h]
  apply List.splitOn_intercalate
  · intro part hpart hcolon
    simp only [List.mem_cons, List.not_mem_nil, or_false] at hpart
    obtain rfl | rfl | rfl := hpart
    · exact absurd hcolon (by decide)
    · exact (typeToString_plain h _ hcolon).2.2.2.2 rfl
    · exact (QByteArray.hex_lt hcolon).2.2.2.2.2 rfl
  · exact List.cons_ne_nil _ _

theorem toDbLine_plain {unit : UInt16} (h : unit ∈ fingerprint.toDbLine) :
    unit ≠ 0x0a ∧ unit ≠ 0x0d := by
  by_cases hvalid : fingerprint.isValid = true
  · rw [toDbLine, if_pos hvalid, List.append_assoc, List.mem_append, List.mem_append,
      List.mem_cons] at h
    rcases h with hversion | htype | rfl | hdata
    · have hall : ∀ unit ∈ QString.literal "v2:", unit ≠ 0x0a ∧ unit ≠ 0x0d :=
        @of_decide_eq_true _ (List.decidableBAll _ _) rfl
      exact hall unit hversion
    · have hplain := typeToString_plain hvalid unit htype
      exact ⟨hplain.2.2.1, hplain.2.2.2.1⟩
    · decide
    · have hplain := QByteArray.hex_lt hdata
      exact ⟨hplain.2.2.2.1, hplain.2.2.2.2.1⟩
  · rw [toDbLine, if_neg hvalid] at h
    exact absurd h List.not_mem_nil

theorem toDbLine_ne_nil (h : fingerprint.isValid = true) : fingerprint.toDbLine ≠ [] := by
  rw [toDbLine, if_pos h]
  exact List.cons_ne_nil _ _

theorem fromDbLine_toDbLine (h : fingerprint.isValid = true) :
    fromDbLine qt fingerprint.toDbLine = fingerprint := by
  have hversion : (QString.literal "v2:").isPrefixOf fingerprint.toDbLine = true := by
    rw [toDbLine, if_pos h, List.append_assoc, List.isPrefixOf_iff_prefix]
    exact List.prefix_append _ _
  have hlower : qt.toLower (QString.hex fingerprint.data) = QString.hex fingerprint.data :=
    QtLowerCase.toLower_eq_self fun unit hunit =>
      ⟨(QByteArray.hex_lt hunit).1, (QByteArray.hex_lt hunit).2.1⟩
  unfold fromDbLine
  rw [if_neg (toDbLine_ne_nil h), if_pos hversion, splitOn_toDbLine h]
  show Fingerprint.mk _ _ = _
  rw [typeFromString_typeToString h, hlower, QByteArray.fromHex_ofLatin1_hex]

end Fingerprint

namespace FingerprintDatabase

variable {qt : QtLowerCase} {database : FingerprintDatabase} {text : QString}

theorem readLine_append {line rest : QString} (h : ∀ unit ∈ line, unit ≠ 0x0a ∧ unit ≠ 0x0d) :
    QTextStream.readLine (line ++ 0x0a :: rest) = (line, rest) := by
  have hline : ∀ unit ∈ line, decide (unit ≠ 0x0a) = true := fun unit hunit =>
    decide_eq_true (h unit hunit).1
  have htake : (line ++ 0x0a :: rest).takeWhile (· ≠ 0x0a) = line := by
    rw [List.takeWhile_append_of_pos hline, List.takeWhile_cons_of_neg (by decide), List.append_nil]
  have hdrop : (line ++ 0x0a :: rest).dropWhile (· ≠ 0x0a) = 0x0a :: rest := by
    rw [List.dropWhile_append_of_pos hline, List.dropWhile_cons_of_neg (by decide)]
  have hlast : line.getLast? ≠ some 0x0d := fun hlast =>
    (h _ (List.mem_of_getLast? hlast)).2 rfl
  unfold QTextStream.readLine
  rw [htake, hdrop]
  exact congrArg (·, rest) (if_neg hlast)

theorem readLines_eq (hsome : text ≠ []) : database.readLines qt text =
    let line := QTextStream.readLine text
    let fingerprint := Fingerprint.fromDbLine qt line.1
    readLines qt (if fingerprint.isValid then
      { database with fingerprints := database.fingerprints ++ [fingerprint] } else database) line.2 := by
  rw [readLines, dif_neg hsome]
  dsimp only
  by_cases hempty : (QTextStream.readLine text).1 = []
  · have hinvalid : (Fingerprint.fromDbLine qt []).isValid = false := rfl
    rw [if_pos hempty, hempty, hinvalid]
    rfl
  · rw [if_neg hempty]
    split <;> rfl

theorem readLines_valid (database : FingerprintDatabase) (text : QString) :
    ∃ added, (database.readLines qt text).fingerprints = database.fingerprints ++ added ∧
      ∀ fingerprint ∈ added, fingerprint.isValid = true := by
  induction hlength : text.length using Nat.strongRecOn generalizing database text with
  | ind length ih =>
    by_cases hempty : text = []
    · refine ⟨[], ?_, fun fingerprint h => absurd h List.not_mem_nil⟩
      rw [readLines, dif_pos hempty, List.append_nil]
    · have hshorter := QTextStream.readLine_length hempty
      rw [readLines_eq hempty]
      dsimp only
      split
      case isTrue hvalid =>
        obtain ⟨added, heq, hadded⟩ := ih _ (hlength ▸ hshorter)
          { database with fingerprints := database.fingerprints ++
            [Fingerprint.fromDbLine qt (QTextStream.readLine text).1] } _ rfl
        refine ⟨Fingerprint.fromDbLine qt (QTextStream.readLine text).1 :: added, ?_, ?_⟩
        · rw [heq, List.append_assoc, List.singleton_append]
        · intro fingerprint hmem
          rcases List.mem_cons.mp hmem with rfl | hmem
          · exact hvalid
          · exact hadded fingerprint hmem
      case isFalse => exact ih _ (hlength ▸ hshorter) database _ rfl

theorem readLines_lines (database : FingerprintDatabase) (written : List Fingerprint) :
    database.readLines qt (lines written) =
      { fingerprints := database.fingerprints ++ written.filter (·.isValid) } := by
  induction written generalizing database with
  | nil =>
    rw [lines, List.flatMap_nil, readLines, dif_pos rfl, List.filter_nil, List.append_nil]
  | cons fingerprint written ih =>
    have hline : lines (fingerprint :: written) = fingerprint.toDbLine ++ 0x0a :: lines written := by
      rw [lines, List.flatMap_cons, List.append_assoc, List.singleton_append]
      rfl
    have hsome : fingerprint.toDbLine ++ 0x0a :: lines written ≠ [] :=
      List.append_ne_nil_of_right_ne_nil _ (List.cons_ne_nil _ _)
    rw [hline, readLines_eq hsome, readLine_append fun unit => Fingerprint.toDbLine_plain]
    dsimp only
    by_cases hvalid : fingerprint.isValid = true
    · rw [Fingerprint.fromDbLine_toDbLine hvalid, if_pos hvalid, ih, List.filter_cons_of_pos hvalid,
        List.append_assoc, List.singleton_append]
    · have hinvalid : ¬ (Fingerprint.fromDbLine qt fingerprint.toDbLine).isValid = true := by
        rw [Fingerprint.toDbLine, if_neg hvalid]
        exact Bool.false_ne_true
      rw [if_neg hinvalid, ih, List.filter_cons_of_neg hvalid]

def freshStreams : List QTextStream := [.device true true [], .string []]

theorem readStream_writeStream {stream : QTextStream} (h : stream ∈ freshStreams) :
    (database.writeStream stream).1 = true ∧ readStream qt {} (database.writeStream stream).2 =
        { fingerprints := database.fingerprints.filter (·.isValid) } := by
  have hread : ({} : FingerprintDatabase).readLines qt (lines database.fingerprints) =
      { fingerprints := database.fingerprints.filter (·.isValid) } :=
    readLines_lines {} database.fingerprints
  simp only [freshStreams, List.mem_cons, List.not_mem_nil, or_false] at h
  obtain rfl | rfl := h
  · exact ⟨rfl, hread⟩
  · refine ⟨rfl, ?_⟩
    show (if lines database.fingerprints = [] then ({} : FingerprintDatabase)
      else ({} : FingerprintDatabase).readLines qt (lines database.fingerprints)) = _
    split
    case isTrue hempty =>
      rw [← hread, hempty, readLines, dif_pos rfl]
    case isFalse => exact hread

theorem readStream_valid (stream : QTextStream) :
    ∀ fingerprint ∈ (readStream qt {} stream).fingerprints, fingerprint.isValid = true := by
  have hread (text : QString) : ∀ fingerprint ∈
      (({} : FingerprintDatabase).readLines qt text).fingerprints, fingerprint.isValid = true := by
    obtain ⟨added, heq, hadded⟩ : ∃ added, (({} : FingerprintDatabase).readLines qt text).fingerprints =
        [] ++ added ∧ ∀ fingerprint ∈ added, fingerprint.isValid = true := readLines_valid {} text
    rw [heq]
    exact hadded
  cases stream with
  | unset => exact fun fingerprint h => absurd h List.not_mem_nil
  | device isReadable isWritable text =>
    cases isReadable
    · exact fun fingerprint h => absurd h List.not_mem_nil
    · exact hread text
  | string text =>
    by_cases hempty : text = []
    · rw [readStream, if_pos hempty]
      exact fun fingerprint h => absurd h List.not_mem_nil
    · rw [readStream, if_neg hempty]
      exact hread text

/-- **Round trip.** What is written is read back if it is valid, only what is valid is read, and what
was read stays the same when it is written and read again. -/
theorem fingerprintRoundTrip (qt : QtLowerCase) :
    (∀ database : FingerprintDatabase, (∀ f ∈ database.fingerprints, f.isValid = true) →
      ∀ stream ∈ freshStreams, (database.writeStream stream).1 = true ∧
        readStream qt {} (database.writeStream stream).2 = database) ∧
    ∀ source : QTextStream, (∀ f ∈ (readStream qt {} source).fingerprints, f.isValid = true) ∧
      ∀ stream ∈ freshStreams, ((readStream qt {} source).writeStream stream).1 = true ∧
        readStream qt {} ((readStream qt {} source).writeStream stream).2 =
          readStream qt {} source := by
  have hround (database : FingerprintDatabase) (hvalid : ∀ f ∈ database.fingerprints, f.isValid = true)
      (stream : QTextStream) (h : stream ∈ freshStreams) :
      (database.writeStream stream).1 = true ∧
        readStream qt {} (database.writeStream stream).2 = database := by
    obtain ⟨hwritten, hread⟩ : _ ∧ readStream qt {} (database.writeStream stream).2 = _ :=
      readStream_writeStream h
    refine ⟨hwritten, ?_⟩
    rw [hread, List.filter_eq_self.mpr hvalid]
  exact ⟨hround, fun source => ⟨readStream_valid source, hround _ (readStream_valid source)⟩⟩

theorem fingerprintRoundTrip_sha1 :
    readStream .ascii {} ((⟨[{ type := .sha1, data := List.replicate 20 0xab }]⟩ :
        FingerprintDatabase).writeStream (.string [])).2 =
      ⟨[{ type := .sha1, data := List.replicate 20 0xab }]⟩ :=
  ((fingerprintRoundTrip .ascii).1 _ (by decide) _ (by decide)).2

theorem isTrusted_iff {fingerprint : Fingerprint} :
    database.isTrusted fingerprint = true ↔ fingerprint ∈ database.fingerprints := by
  rw [isTrusted, List.contains_iff_mem]

theorem mem_foldl_addTrusted (added : List Fingerprint) (fingerprint : Fingerprint) :
    fingerprint ∈ (added.foldl addTrusted database).fingerprints ↔
      fingerprint ∈ database.fingerprints ∨ fingerprint ∈ added := by
  induction added generalizing database with
  | nil => simp
  | cons first added ih =>
    have hfirst : fingerprint ∈ (database.addTrusted first).fingerprints ↔
        fingerprint ∈ database.fingerprints ∨ fingerprint = first := by
      unfold addTrusted
      split
      case isTrue htrusted =>
        refine ⟨Or.inl, fun h => h.elim id fun hsame => ?_⟩
        rw [hsame]
        exact isTrusted_iff.mp htrusted
      case isFalse => rw [List.mem_append, List.mem_singleton]
    rw [List.foldl_cons, ih, hfirst, List.mem_cons, or_assoc]

/-- **Trust survives**: what is trusted after a restart was read before, or is valid and was
added. -/
theorem isTrusted_restored (qt : QtLowerCase) (source : QTextStream) (added : List Fingerprint)
    {stream : QTextStream} (h : stream ∈ freshStreams) (fingerprint : Fingerprint) :
    (readStream qt {}
        ((added.foldl addTrusted (readStream qt {} source)).writeStream stream).2).isTrusted
          fingerprint = true ↔
      (readStream qt {} source).isTrusted fingerprint = true ∨
        fingerprint ∈ added ∧ fingerprint.isValid = true := by
  have hread : fingerprint ∈ (readStream qt {} source).fingerprints → fingerprint.isValid = true :=
    readStream_valid source fingerprint
  rw [(readStream_writeStream h).2, isTrusted_iff, isTrusted_iff, List.mem_filter,
    mem_foldl_addTrusted, or_and_right, and_iff_left_of_imp hread]

theorem isTrusted_restored_sha1 :
    let fingerprint : Fingerprint := { type := .sha1, data := List.replicate 20 0xab }
    (readStream .ascii {} (([fingerprint].foldl addTrusted
      (readStream .ascii {} .unset)).writeStream (.string [])).2).isTrusted fingerprint = true :=
  (isTrusted_restored .ascii .unset [_] (by decide) _).mpr (.inr ⟨List.mem_singleton_self _, rfl⟩)

end FingerprintDatabase

end DeskflowPlus
