import DeskflowPlus.Lib.BigEndian

/-!
# Concise binary objects

Values, their shortest definite-length encoding, and a parser that also reads longer heads and
indefinite lengths. Parsing consumes fuel once for each value and each list cell, and an encoding
has at least half as many bytes as that, so a parser whose fuel is twice the input's length reads
every encoding back.
-/

namespace Cbor

inductive Value where
  | integer (value : Int)
  | bytes (content : List UInt8)
  | text (utf8 : List UInt8)
  | array (items : List Value)
  | map (entries : List (Value × Value))
  | tagged (tag : Nat) (content : Value)
  | simple (value : Nat)
  | float (width : Nat) (bits : Nat)

/-- A major type with its argument in the shortest form that holds it. -/
def head (major argument : Nat) : List UInt8 :=
  if argument < 24 then [UInt8.ofNat (major * 32 + argument)]
  else if argument < 256 ^ 1 then UInt8.ofNat (major * 32 + 24) :: BigEndian.encode 1 argument
  else if argument < 256 ^ 2 then UInt8.ofNat (major * 32 + 25) :: BigEndian.encode 2 argument
  else if argument < 256 ^ 4 then UInt8.ofNat (major * 32 + 26) :: BigEndian.encode 4 argument
  else UInt8.ofNat (major * 32 + 27) :: BigEndian.encode 8 argument

mutual

def encode : Value → List UInt8
  | .integer value => if 0 ≤ value then head 0 value.toNat else head 1 (-1 - value).toNat
  | .bytes content => head 2 content.length ++ content
  | .text utf8 => head 3 utf8.length ++ utf8
  | .array items => head 4 items.length ++ encodeItems items
  | .map entries => head 5 entries.length ++ encodeEntries entries
  | .tagged tag content => head 6 tag ++ encode content
  | .simple value => head 7 value
  | .float width bits =>
    UInt8.ofNat (7 * 32 + 24 + (if width = 2 then 1 else if width = 4 then 2 else 3))
      :: BigEndian.encode width bits
termination_by structural value => value

def encodeItems : List Value → List UInt8
  | [] => []
  | item :: items => encode item ++ encodeItems items
termination_by structural items => items

def encodeEntries : List (Value × Value) → List UInt8
  | [] => []
  | entry :: entries => encodeEntry entry ++ encodeEntries entries
termination_by structural entries => entries

def encodeEntry : Value × Value → List UInt8
  | (key, value) => encode key ++ encode value
termination_by structural entry => entry

end

def isValidUtf8 (utf8 : List UInt8) : Bool :=
  ByteArray.validateUTF8 ⟨utf8.toArray⟩

/-- The initial byte: the major type, the low five bits, and the argument unless the length is
indefinite. -/
def parseHead : List UInt8 → Option (Nat × Nat × Option Nat × List UInt8)
  | [] => none
  | byte :: rest =>
    let major := byte.toNat / 32
    let info := byte.toNat % 32
    if info < 24 then some (major, info, some info, rest)
    else if info < 28 then
      let width := 2 ^ (info - 24)
      if rest.length < width then none
      else some (major, info, some (BigEndian.decode (rest.take width)), rest.drop width)
    else if info = 31 then some (major, info, none, rest)
    else none

/-- The definite-length pieces of an indefinite-length string, up to the break. -/
def parsePieces (major : Nat) : Nat → List UInt8 → Option (List UInt8 × List UInt8)
  | 0, _ => none
  | fuel + 1, bytes =>
    match bytes with
    | 0xff :: rest => some ([], rest)
    | bytes =>
      match parseHead bytes with
      | some (pieceMajor, _, some length, rest) =>
        if pieceMajor ≠ major ∨ rest.length < length then none
        else
          match parsePieces major fuel (rest.drop length) with
          | none => none
          | some (later, rest') => some (rest.take length ++ later, rest')
      | _ => none

mutual

def parse : Nat → List UInt8 → Option (Value × List UInt8)
  | 0, _ => none
  | fuel + 1, bytes =>
    match parseHead bytes with
    | none => none
    | some (major, info, argument, rest) =>
      match major, argument with
      | 0, some value => some (.integer value, rest)
      | 1, some value => some (.integer (-1 - value), rest)
      | 2, some length =>
        if rest.length < length then none
        else some (.bytes (rest.take length), rest.drop length)
      | 2, none => (parsePieces 2 fuel rest).map fun (content, rest) => (.bytes content, rest)
      | 3, some length =>
        if rest.length < length ∨ ¬ isValidUtf8 (rest.take length) then none
        else some (.text (rest.take length), rest.drop length)
      | 3, none =>
        match parsePieces 3 fuel rest with
        | none => none
        | some (utf8, rest) => if isValidUtf8 utf8 then some (.text utf8, rest) else none
      | 4, some length => (parseItems fuel length rest).map fun (items, rest) => (.array items, rest)
      | 4, none => (parseItemsToBreak fuel rest).map fun (items, rest) => (.array items, rest)
      | 5, some length =>
        (parseEntries fuel length rest).map fun (entries, rest) => (.map entries, rest)
      | 5, none => (parseEntriesToBreak fuel rest).map fun (entries, rest) => (.map entries, rest)
      | 6, some tag => (parse fuel rest).map fun (content, rest) => (.tagged tag content, rest)
      | 7, some value =>
        if info ≤ 24 then some (.simple value, rest)
        else some (.float (2 ^ (info - 24)) value, rest)
      | _, _ => none

def parseItems : Nat → Nat → List UInt8 → Option (List Value × List UInt8)
  | _, 0, bytes => some ([], bytes)
  | 0, _ + 1, _ => none
  | fuel + 1, count + 1, bytes =>
    match parse fuel bytes with
    | none => none
    | some (item, rest) =>
      (parseItems fuel count rest).map fun (items, rest) => (item :: items, rest)

def parseItemsToBreak : Nat → List UInt8 → Option (List Value × List UInt8)
  | 0, _ => none
  | fuel + 1, bytes =>
    match bytes with
    | 0xff :: rest => some ([], rest)
    | bytes =>
      match parse fuel bytes with
      | none => none
      | some (item, rest) =>
        (parseItemsToBreak fuel rest).map fun (items, rest) => (item :: items, rest)

def parseEntries : Nat → Nat → List UInt8 → Option (List (Value × Value) × List UInt8)
  | _, 0, bytes => some ([], bytes)
  | 0, _ + 1, _ => none
  | fuel + 1, count + 1, bytes =>
    match parse fuel bytes with
    | none => none
    | some (key, rest) =>
      match parse fuel rest with
      | none => none
      | some (value, rest) =>
        (parseEntries fuel count rest).map fun (entries, rest) => ((key, value) :: entries, rest)

def parseEntriesToBreak : Nat → List UInt8 → Option (List (Value × Value) × List UInt8)
  | 0, _ => none
  | fuel + 1, bytes =>
    match bytes with
    | 0xff :: rest => some ([], rest)
    | bytes =>
      match parse fuel bytes with
      | none => none
      | some (key, rest) =>
        match parse fuel rest with
        | none => none
        | some (value, rest) =>
          (parseEntriesToBreak fuel rest).map fun (entries, rest) => ((key, value) :: entries, rest)

end

/-- The one value that makes up the whole input. -/
def decode (bytes : List UInt8) : Option Value :=
  match parse (2 * bytes.length) bytes with
  | some (value, []) => some value
  | _ => none

mutual

/-- The values whose numbers and lengths fit a head and whose texts are UTF-8. -/
def Encodable : Value → Prop
  | .integer value => -2 ^ 64 ≤ value ∧ value < 2 ^ 64
  | .bytes content => content.length < 2 ^ 64
  | .text utf8 => utf8.length < 2 ^ 64 ∧ isValidUtf8 utf8 = true
  | .array items => items.length < 2 ^ 64 ∧ EncodableItems items
  | .map entries => entries.length < 2 ^ 64 ∧ EncodableEntries entries
  | .tagged tag content => tag < 2 ^ 64 ∧ Encodable content
  | .simple value => value < 24
  | .float width bits => (width = 2 ∨ width = 4 ∨ width = 8) ∧ bits < 256 ^ width
termination_by structural value => value

def EncodableItems : List Value → Prop
  | [] => True
  | item :: items => Encodable item ∧ EncodableItems items
termination_by structural items => items

def EncodableEntries : List (Value × Value) → Prop
  | [] => True
  | entry :: entries => EncodableEntry entry ∧ EncodableEntries entries
termination_by structural entries => entries

def EncodableEntry : Value × Value → Prop
  | (key, value) => Encodable key ∧ Encodable value
termination_by structural entry => entry

end

mutual

/-- The fuel parsing takes. -/
def weight : Value → Nat
  | .array items => 1 + weightItems items
  | .map entries => 1 + weightEntries entries
  | .tagged _ content => 1 + weight content
  | .integer _ | .bytes _ | .text _ | .simple _ | .float _ _ => 1
termination_by structural value => value

def weightItems : List Value → Nat
  | [] => 0
  | item :: items => 1 + weight item + weightItems items
termination_by structural items => items

def weightEntries : List (Value × Value) → Nat
  | [] => 0
  | entry :: entries => 1 + weightEntry entry + weightEntries entries
termination_by structural entries => entries

def weightEntry : Value × Value → Nat
  | (key, value) => weight key + weight value
termination_by structural entry => entry

end

theorem one_le_weight (value : Value) : 1 ≤ weight value := by
  cases value <;> simp [weight]

theorem one_le_head_length (major argument : Nat) : 1 ≤ (head major argument).length := by
  unfold head
  split_ifs <;> simp

theorem parseHead_initial {major info : Nat} (hmajor : major < 8) (hinfo : info < 32)
    (rest : List UInt8) :
    parseHead (UInt8.ofNat (major * 32 + info) :: rest) =
      if info < 24 then some (major, info, some info, rest)
      else if info < 28 then
        if rest.length < 2 ^ (info - 24) then none
        else some (major, info, some (BigEndian.decode (rest.take (2 ^ (info - 24)))),
          rest.drop (2 ^ (info - 24)))
      else if info = 31 then some (major, info, none, rest)
      else none := by
  have hbyte : (UInt8.ofNat (major * 32 + info)).toNat = major * 32 + info := by
    rw [UInt8.toNat_ofNat']
    omega
  have hhigh : (major * 32 + info) / 32 = major := by omega
  have hlow : (major * 32 + info) % 32 = info := by omega
  simp only [parseHead, hbyte, hhigh, hlow]

theorem parseHead_wide {major width argument : Nat} {exponent : Nat} (hmajor : major < 8)
    (hexponent : exponent < 4) (hwidth : width = 2 ^ exponent) (hargument : argument < 256 ^ width)
    (rest : List UInt8) :
    parseHead (UInt8.ofNat (major * 32 + (24 + exponent)) ::
        (BigEndian.encode width argument ++ rest)) =
      some (major, 24 + exponent, some argument, rest) := by
  have hexp : 24 + exponent - 24 = exponent := by omega
  have hlength : (BigEndian.encode width argument ++ rest).length = width + rest.length := by simp
  rw [parseHead_initial hmajor (by omega), if_neg (by omega), if_pos (by omega), hexp, ← hwidth,
    if_neg (by omega), List.take_left' (by simp), List.drop_left' (by simp),
    BigEndian.decode_encode hargument]

theorem parseHead_head {major argument : Nat} (hmajor : major < 8) (hargument : argument < 2 ^ 64)
    (rest : List UInt8) :
    ∃ info, parseHead (head major argument ++ rest) = some (major, info, some argument, rest) ∧
      (argument < 24 → info = argument) := by
  unfold head
  split_ifs with h0 h1 h2 h4
  · exact ⟨argument, by rw [List.singleton_append, parseHead_initial hmajor (by omega), if_pos h0],
      fun _ => rfl⟩
  · exact ⟨24, parseHead_wide hmajor (by decide : 0 < 4) rfl h1 rest, fun h => absurd h h0⟩
  · exact ⟨25, parseHead_wide hmajor (by decide : 1 < 4) rfl h2 rest, fun h => absurd h h0⟩
  · exact ⟨26, parseHead_wide hmajor (by decide : 2 < 4) rfl h4 rest, fun h => absurd h h0⟩
  · exact ⟨27, parseHead_wide hmajor (by decide : 3 < 4) rfl (by simpa using hargument) rest,
      fun h => absurd h h0⟩

mutual

theorem parse_encode : ∀ {value : Value} {fuel : Nat} {rest : List UInt8}, Encodable value →
    weight value ≤ fuel → parse fuel (encode value ++ rest) = some (value, rest)
  | value, 0, rest, _, hfuel => by
    have := one_le_weight value
    omega
  | .integer value, fuel + 1, rest, hencodable, _ => by
    simp only [Encodable] at hencodable
    by_cases hsign : 0 ≤ value
    · obtain ⟨info, hhead, -⟩ := parseHead_head (by decide : 0 < 8)
        (by omega : value.toNat < 2 ^ 64) rest
      simp [encode, hsign, parse, hhead]
    · obtain ⟨info, hhead, -⟩ := parseHead_head (by decide : 1 < 8)
        (by omega : (-1 - value).toNat < 2 ^ 64) rest
      simp only [encode, hsign, if_false, parse, hhead]
      congr
      omega
  | .bytes content, fuel + 1, rest, hencodable, _ => by
    simp only [Encodable] at hencodable
    obtain ⟨info, hhead, -⟩ := parseHead_head (by decide : 2 < 8) hencodable (content ++ rest)
    simp [encode, parse, hhead]
  | .text utf8, fuel + 1, rest, hencodable, _ => by
    obtain ⟨hlength, hvalid⟩ : utf8.length < 2 ^ 64 ∧ isValidUtf8 utf8 = true := by
      simpa only [Encodable] using hencodable
    obtain ⟨info, hhead, -⟩ := parseHead_head (by decide : 3 < 8) hlength (utf8 ++ rest)
    simp [encode, parse, hhead, hvalid]
  | .array items, fuel + 1, rest, hencodable, hfuel => by
    obtain ⟨hlength, hitems⟩ : items.length < 2 ^ 64 ∧ EncodableItems items := by
      simpa only [Encodable] using hencodable
    obtain ⟨info, hhead, -⟩ :=
      parseHead_head (by decide : 4 < 8) hlength (encodeItems items ++ rest)
    have hparse := @parseItems_encodeItems items fuel rest hitems (by
      simp only [weight] at hfuel
      omega)
    simp [encode, parse, hhead, hparse]
  | .map entries, fuel + 1, rest, hencodable, hfuel => by
    obtain ⟨hlength, hentries⟩ : entries.length < 2 ^ 64 ∧ EncodableEntries entries := by
      simpa only [Encodable] using hencodable
    obtain ⟨info, hhead, -⟩ :=
      parseHead_head (by decide : 5 < 8) hlength (encodeEntries entries ++ rest)
    have hparse := @parseEntries_encodeEntries entries fuel rest hentries (by
      simp only [weight] at hfuel
      omega)
    simp [encode, parse, hhead, hparse]
  | .tagged tag content, fuel + 1, rest, hencodable, hfuel => by
    obtain ⟨htag, hcontent⟩ : tag < 2 ^ 64 ∧ Encodable content := by
      simpa only [Encodable] using hencodable
    obtain ⟨info, hhead, -⟩ := parseHead_head (by decide : 6 < 8) htag (encode content ++ rest)
    have hparse := @parse_encode content fuel rest hcontent (by
      simp only [weight] at hfuel
      omega)
    simp [encode, parse, hhead, hparse]
  | .simple value, fuel + 1, rest, hencodable, _ => by
    simp only [Encodable] at hencodable
    obtain ⟨info, hhead, hinfo⟩ := parseHead_head (by decide : 7 < 8)
      (by omega : value < 2 ^ 64) rest
    have hsmall : info ≤ 24 := by
      have := hinfo hencodable
      omega
    simp [encode, parse, hhead, hsmall]
  | .float width bits, fuel + 1, rest, hencodable, _ => by
    obtain ⟨hwidth, hbits⟩ :
        (width = 2 ∨ width = 4 ∨ width = 8) ∧ bits < 256 ^ width := by
      simpa only [Encodable] using hencodable
    rcases hwidth with rfl | rfl | rfl
    · have hhead := parseHead_wide (by decide : 7 < 8) (by decide : 1 < 4) rfl hbits rest
      simp only [encode, List.cons_append]
      simp only [parse]
      simp_all
    · have hhead := parseHead_wide (by decide : 7 < 8) (by decide : 2 < 4) rfl hbits rest
      simp only [encode, List.cons_append]
      simp only [parse]
      simp_all
    · have hhead := parseHead_wide (by decide : 7 < 8) (by decide : 3 < 4) rfl hbits rest
      simp only [encode, List.cons_append]
      simp only [parse]
      simp_all

theorem parseItems_encodeItems : ∀ {items : List Value} {fuel : Nat} {rest : List UInt8},
    EncodableItems items → weightItems items ≤ fuel →
      parseItems fuel items.length (encodeItems items ++ rest) = some (items, rest)
  | [], fuel, rest, _, _ => by
    cases fuel <;> simp [encodeItems, parseItems]
  | item :: items, 0, rest, _, hfuel => by
    simp only [weightItems] at hfuel
    omega
  | item :: items, fuel + 1, rest, hencodable, hfuel => by
    obtain ⟨hitem, hitems⟩ : Encodable item ∧ EncodableItems items := by
      simpa only [EncodableItems] using hencodable
    simp only [weightItems] at hfuel
    have hparse := @parse_encode item fuel (encodeItems items ++ rest) hitem (by omega)
    have hlater := @parseItems_encodeItems items fuel rest hitems (by omega)
    simp [encodeItems, parseItems, hparse, hlater]

theorem parseEntries_encodeEntries :
    ∀ {entries : List (Value × Value)} {fuel : Nat} {rest : List UInt8},
      EncodableEntries entries → weightEntries entries ≤ fuel →
        parseEntries fuel entries.length (encodeEntries entries ++ rest) = some (entries, rest)
  | [], fuel, rest, _, _ => by
    cases fuel <;> simp [encodeEntries, parseEntries]
  | entry :: entries, 0, rest, _, hfuel => by
    simp only [weightEntries] at hfuel
    omega
  | (key, value) :: entries, fuel + 1, rest, hencodable, hfuel => by
    obtain ⟨⟨hkey, hvalue⟩, hentries⟩ :
        (Encodable key ∧ Encodable value) ∧ EncodableEntries entries := by
      simpa only [EncodableEntries, EncodableEntry] using hencodable
    simp only [weightEntries, weightEntry] at hfuel
    have hparseKey :=
      @parse_encode key fuel (encode value ++ (encodeEntries entries ++ rest)) hkey (by omega)
    have hparseValue := @parse_encode value fuel (encodeEntries entries ++ rest) hvalue (by omega)
    have hlater := @parseEntries_encodeEntries entries fuel rest hentries (by omega)
    simp [encodeEntries, encodeEntry, parseEntries, hparseKey, hparseValue, hlater]

end

mutual

theorem weight_lt : ∀ value : Value, weight value < 2 * (encode value).length
  | .integer value => by
    have h0 := one_le_head_length 0 value.toNat
    have h1 := one_le_head_length 1 (-1 - value).toNat
    by_cases hsign : 0 ≤ value <;> simp only [weight, encode, hsign, if_true, if_false] <;> omega
  | .bytes content => by
    have := one_le_head_length 2 content.length
    simp only [weight, encode, List.length_append]
    omega
  | .text utf8 => by
    have := one_le_head_length 3 utf8.length
    simp only [weight, encode, List.length_append]
    omega
  | .array items => by
    have := one_le_head_length 4 items.length
    have := weightItems_le items
    simp only [weight, encode, List.length_append]
    omega
  | .map entries => by
    have := one_le_head_length 5 entries.length
    have := weightEntries_le entries
    simp only [weight, encode, List.length_append]
    omega
  | .tagged tag content => by
    have := one_le_head_length 6 tag
    have := weight_lt content
    simp only [weight, encode, List.length_append]
    omega
  | .simple value => by
    have := one_le_head_length 7 value
    simp only [weight, encode]
    omega
  | .float width bits => by
    simp [weight, encode]
    omega

theorem weightItems_le : ∀ items : List Value, weightItems items ≤ 2 * (encodeItems items).length
  | [] => by simp [weightItems]
  | item :: items => by
    have := weight_lt item
    have := weightItems_le items
    simp only [weightItems, encodeItems, List.length_append]
    omega

theorem weightEntries_le :
    ∀ entries : List (Value × Value), weightEntries entries ≤ 2 * (encodeEntries entries).length
  | [] => by simp [weightEntries]
  | (key, value) :: entries => by
    have := weight_lt key
    have := weight_lt value
    have := weightEntries_le entries
    simp only [weightEntries, weightEntry, encodeEntries, encodeEntry, List.length_append]
    omega

end

theorem encode_ne_nil (value : Value) : encode value ≠ [] := by
  intro hnil
  have := weight_lt value
  simp [hnil] at this

/-- With the fuel of `decode`, nothing is left after an encoding. -/
theorem parse_all {value : Value} (hencodable : Encodable value) :
    parse (2 * (encode value).length) (encode value) = some (value, []) := by
  have hweight := weight_lt value
  have hparse := @parse_encode value (2 * (encode value).length) [] hencodable (by omega)
  rwa [List.append_nil] at hparse

/-- **Reading back.** An encodable value is what its encoding decodes to. -/
theorem decode_encode {value : Value} (hencodable : Encodable value) :
    decode (encode value) = some value := by
  rw [decode, parse_all hencodable]

end Cbor
