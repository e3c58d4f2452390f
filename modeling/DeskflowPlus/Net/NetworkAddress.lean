import Mathlib.Algebra.Group.Int.Defs
import Mathlib.Data.List.Count
import DeskflowPlus.Base.NumberScan
import DeskflowPlus.Client.KeyNameRoundTrip

/-!
# Host and port in one text

How many colons a text has decides whether it names a port: one colon stands before a port, and two
or more belong to an IPv6 address, which brackets set apart from a port. The port is read by a
scanner that leaves off before the first character that is no digit, and what follows is ignored.
-/

namespace DeskflowPlus

open NumberScan

inductive SocketError where
  | unknown
  | badPort

structure NetworkAddress where
  hostname : List Char
  port : Int
  deriving DecidableEq

namespace NetworkAddress

/-- `std::stoi`, whose exceptions are all caught alike. -/
def stoi (text : List Char) : Option Int :=
  match scanDecimal text with
  | none => none
  | some (value, _) => if -2 ^ 31 ≤ value ∧ value < 2 ^ 31 then some value else none

/-- `static_cast<int>` of a size. -/
def toInt (size : Nat) : Int := ((size : Int) + 2 ^ 31) % 2 ^ 32 - 2 ^ 31

def findDelimiter : List Char → Option Nat
  | [] => none
  | first :: rest =>
    if [']', ':'] <+: first :: rest then some 0 else (findDelimiter rest).map (· + 1)

def InRange (port : Int) : Prop := 0 ≤ port ∧ port ≤ 65535

instance (port : Int) : Decidable (InRange port) := inferInstanceAs (Decidable (_ ∧ _))

/-- What is thrown tells the address as far as it is known. -/
abbrev Checked := Except (SocketError × NetworkAddress) NetworkAddress

def checkPort (address : NetworkAddress) : Checked :=
  if InRange address.port then .ok address else .error (.badPort, address)

/-- A link-local address without the scope that it needs. -/
def Scopeless (hostname : List Char) : Prop := ['f', 'e', '8', '0', ':'] <+: hostname ∧ '%' ∉ hostname

instance (hostname : List Char) : Decidable (Scopeless hostname) :=
  inferInstanceAs (Decidable (_ ∧ _))

def checkScope (address : NetworkAddress) : Checked :=
  if Scopeless address.hostname then .error (.unknown, address) else checkPort address

/-- What the constructor keeps of a text before its port, from the place `start` on. -/
def kept (hostname : List Char) (start hostIt : Nat) : List Char :=
  (hostname.drop start).take (toInt hostIt - start).toNat

def construct (hostname : List Char) (port : Int) : Checked :=
  if hostname.count ':' = 1 then
    let hostIt := hostname.idxOf ':'
    match stoi (hostname.drop (hostIt + 1)) with
    | none => .error (.badPort, ⟨hostname, port⟩)
    | some port => checkPort ⟨kept hostname 0 hostIt, port⟩
  else if 1 < hostname.count ':' then
    if hostname.head? = some '[' then
      match findDelimiter hostname with
      | none => .error (.unknown, ⟨hostname, port⟩)
      | some hostIt =>
        if hostname.drop (hostIt + 2) = [] then .error (.badPort, ⟨hostname, port⟩)
        else
          match stoi (hostname.drop (hostIt + 2)) with
          | none => .error (.badPort, ⟨hostname, port⟩)
          | some port => checkScope ⟨kept hostname 1 hostIt, port⟩
    else checkScope ⟨hostname, port⟩
  else checkPort ⟨hostname, port⟩

def IsNumber (text : List Char) : Prop := text ≠ [] ∧ ∀ c ∈ text, c.isDigit = true

instance (text : List Char) : Decidable (IsNumber text) :=
  have : Decidable (∀ c ∈ text, c.isDigit = true) := List.decidableBAll _ text
  inferInstanceAs (Decidable (_ ∧ _))

/-- What a text says, with a default for the port. -/
inductive Denotes (port : Int) : List Char → NetworkAddress → Prop
  | host {host : List Char} (hhost : host.count ':' = 0) : Denotes port host ⟨host, port⟩
  | hostPort {host digits : List Char} (hhost : ':' ∉ host) (hdigits : IsNumber digits) :
    Denotes port (host ++ ':' :: digits) ⟨host, decimalValue digits⟩
  | bracketed {host digits : List Char} (hhost : ':' ∈ host) (hends : ¬ [']', ':'] <:+: host)
    (hdigits : IsNumber digits) :
    Denotes port ('[' :: host ++ ']' :: ':' :: digits) ⟨host, decimalValue digits⟩
  | bare {host : List Char} (hhost : 2 ≤ host.count ':') (hbare : host.head? ≠ some '[') :
    Denotes port host ⟨host, port⟩

/-- The scope that an IPv6 address must have is missing. -/
def Unscoped (hostname : List Char) : Prop := 2 ≤ hostname.count ':' ∧ Scopeless hostname

/-- The grammar, and the bounds on what it says. -/
def Admits (port : Int) (text : List Char) (address : NetworkAddress) : Prop :=
  Denotes port text address ∧ InRange address.port ∧ ¬ Unscoped address.hostname

theorem scanDecimal_of_isNumber {digits : List Char} (h : IsNumber digits) :
    scanDecimal digits = some ((decimalValue digits : Int), []) := by
  obtain ⟨hsome, hdigits⟩ := h
  obtain ⟨first, rest, rfl⟩ := List.exists_cons_of_ne_nil hsome
  have hfirst : isHexDigit first = true := by
    unfold isHexDigit
    rw [hdigits first List.mem_cons_self]
    rfl
  have hspace := KeyMap.isSpace_of_isHexDigit hfirst
  have hsign := @KeyMap.splitSign_of_isHexDigit rest _ hfirst
  have htake : (first :: rest).takeWhile Char.isDigit = first :: rest := by
    rw [List.takeWhile_eq_self_iff]
    exact hdigits
  have hdrop : (first :: rest).dropWhile Char.isDigit = [] := by
    rw [List.dropWhile_eq_nil_iff]
    exact hdigits
  rw [scanDecimal, List.dropWhile_cons_of_neg (by rw [hspace]; exact Bool.false_ne_true), hsign]
  dsimp only
  rw [htake, hdrop]
  rfl

theorem stoi_of_isNumber {digits : List Char} (h : IsNumber digits)
    (hrange : InRange (decimalValue digits)) : stoi digits = some (decimalValue digits) := by
  rw [stoi, scanDecimal_of_isNumber h]
  unfold InRange at hrange
  exact if_pos (by omega)

theorem value_of_isNumber {digits : List Char} {value : Int} (h : IsNumber digits)
    (hvalue : stoi digits = some value) : value = decimalValue digits := by
  rw [stoi, scanDecimal_of_isNumber h] at hvalue
  exact (Option.some.inj (Option.ite_none_right_eq_some.mp hvalue).2).symm

theorem port_iff {refused forbidden : Prop} {shortened host digits : List Char}
    (hrefused : shortened = host → forbidden → refused) :
    (∀ address : NetworkAddress,
      (∃ value, stoi digits = some value ∧ InRange value ∧ ¬ refused ∧ address = ⟨shortened, value⟩) ↔
        IsNumber digits ∧ InRange address.port ∧ ¬ forbidden ∧
          address = ⟨host, decimalValue digits⟩) ↔
      ∀ value, stoi digits = some value → InRange value →
        (refused → IsNumber digits → forbidden) ∧
          (¬ refused → IsNumber digits ∧ shortened = host) := by
  constructor
  · intro h value hvalue hrange
    refine ⟨fun hrefuses hnumber => ?_, fun haccepts => ?_⟩
    · by_contra hadmits
      have heq := value_of_isNumber hnumber hvalue
      obtain ⟨-, -, -, hno, -⟩ := (h ⟨host, decimalValue digits⟩).mpr
        ⟨hnumber, heq ▸ hrange, hadmits, rfl⟩
      exact hno hrefuses
    · obtain ⟨hnumber, -, -, heq⟩ := (h ⟨shortened, value⟩).mp ⟨value, hvalue, hrange, haccepts, rfl⟩
      exact ⟨hnumber, congrArg NetworkAddress.hostname heq⟩
  · intro h address
    constructor
    · rintro ⟨value, hvalue, hrange, haccepts, rfl⟩
      obtain ⟨hnumber, rfl⟩ := (h value hvalue hrange).2 haccepts
      obtain rfl := value_of_isNumber hnumber hvalue
      exact ⟨hnumber, hrange, fun hforbidden => haccepts (hrefused rfl hforbidden), rfl⟩
    · rintro ⟨hnumber, hrange, hallowed, rfl⟩
      have hvalue := stoi_of_isNumber hnumber hrange
      obtain ⟨hrefuses, haccepts⟩ := h _ hvalue hrange
      have hno : ¬ refused := fun hyes => hallowed (hrefuses hyes hnumber)
      obtain ⟨-, rfl⟩ := haccepts hno
      exact ⟨_, hvalue, hrange, hno, rfl⟩

theorem findDelimiter_append {before after : List Char} (h : ¬ [']', ':'] <:+: before) :
    findDelimiter (before ++ ']' :: ':' :: after) = some before.length := by
  induction before with
  | nil => exact if_pos ⟨after, rfl⟩
  | cons first before ih =>
    rw [List.infix_cons_iff, not_or] at h
    have hhere : ¬ [']', ':'] <+: first :: (before ++ ']' :: ':' :: after) := by
      intro hbegins
      obtain ⟨rfl, hnext⟩ := List.cons_prefix_cons.mp hbegins
      cases before with
      | nil => exact absurd (List.cons_prefix_cons.mp hnext).1 (by decide)
      | cons second before =>
        obtain ⟨rfl, -⟩ := List.cons_prefix_cons.mp hnext
        exact h.1 ⟨before, rfl⟩
    rw [List.cons_append, findDelimiter, if_neg hhere, ih h.2]
    rfl

theorem exists_of_findDelimiter {text : List Char} {hostIt : Nat}
    (h : findDelimiter text = some hostIt) : ∃ before after,
      text = before ++ ']' :: ':' :: after ∧ before.length = hostIt ∧ ¬ [']', ':'] <:+: before := by
  induction text generalizing hostIt with
  | nil => cases h
  | cons first text ih =>
    rw [findDelimiter] at h
    split at h
    case isTrue hhere =>
      obtain ⟨after, hafter⟩ := hhere
      exact ⟨[], after, hafter.symm, Option.some.inj h, fun hmem => nomatch List.infix_nil.mp hmem⟩
    case isFalse hhere =>
      obtain ⟨later, hlater, rfl⟩ := Option.map_eq_some_iff.mp h
      obtain ⟨before, after, rfl, rfl, hbefore⟩ := ih hlater
      refine ⟨first :: before, after, rfl, rfl, fun hmem => ?_⟩
      rcases List.infix_cons_iff.mp hmem with hbegins | hinside
      · exact hhere (hbegins.trans (List.prefix_append _ _))
      · exact hbefore hinside

/-- What is kept is what stands there as long as an `int` can tell its end. -/
theorem kept_eq_iff {hostname : List Char} {start hostIt : Nat} (hone : start ≤ 1)
    (hstart : start ≤ hostIt) (hhostIt : hostIt ≤ hostname.length) :
    kept hostname start hostIt = (hostname.take hostIt).drop start ↔ hostIt < 2 ^ 31 := by
  unfold kept toInt
  rw [List.drop_take]
  constructor
  · intro h
    have hlengths := congrArg List.length h
    rw [List.length_take, List.length_take, List.length_drop] at hlengths
    omega
  · intro h
    have hcount : (((hostIt : Int) + 2 ^ 31) % 2 ^ 32 - 2 ^ 31 - start).toNat = hostIt - start := by
      omega
    rw [hcount]

/-- A port that is in range where it is read consists of digits, and the host before it ends within
the range of an `int`. Where the scope is missed, a number is a port only behind a host that needs it. -/
structure Foreseen (hostname : List Char) : Prop where
  hostPort : hostname.count ':' = 1 → ∀ value,
    stoi (hostname.drop (hostname.idxOf ':' + 1)) = some value → InRange value →
      IsNumber (hostname.drop (hostname.idxOf ':' + 1)) ∧ hostname.idxOf ':' < 2 ^ 31
  bracketed : 1 < hostname.count ':' → hostname.head? = some '[' → ∀ hostIt,
    findDelimiter hostname = some hostIt → ∀ value,
      stoi (hostname.drop (hostIt + 2)) = some value → InRange value →
        (Scopeless (kept hostname 1 hostIt) → IsNumber (hostname.drop (hostIt + 2)) →
          Unscoped ((hostname.take hostIt).drop 1)) ∧
        (¬ Scopeless (kept hostname 1 hostIt) →
          IsNumber (hostname.drop (hostIt + 2)) ∧ hostIt < 2 ^ 31)

variable {text : List Char} {port : Int} {address : NetworkAddress}

theorem count_of_isNumber (h : IsNumber text) : text.count ':' = 0 :=
  List.count_eq_zero.mpr fun hmem => absurd (h.2 ':' hmem) (by decide)

theorem checkPort_eq_ok {checked : NetworkAddress} :
    checkPort checked = .ok address ↔ InRange checked.port ∧ checked = address := by
  unfold checkPort
  split
  case isTrue h => exact ⟨fun heq => ⟨h, Except.ok.inj heq⟩, fun heq => congrArg _ heq.2⟩
  case isFalse h => exact ⟨nofun, fun heq => absurd heq.1 h⟩

theorem checkScope_eq_ok {checked : NetworkAddress} : checkScope checked = .ok address ↔
    ¬ Scopeless checked.hostname ∧ InRange checked.port ∧ checked = address := by
  unfold checkScope
  split
  case isTrue h => exact ⟨nofun, fun heq => absurd h heq.1⟩
  case isFalse h => exact checkPort_eq_ok.trans (and_iff_right h).symm

theorem denotes_whole_iff (h : text.count ':' = 0 ∨ 1 < text.count ':' ∧ text.head? ≠ some '[') :
    Denotes port text address ↔ address = ⟨text, port⟩ := by
  constructor
  · rintro (_ | ⟨hhost, hdigits⟩ | ⟨hhost, -, -⟩ | _)
    · rfl
    · have hno := List.count_eq_zero.mpr hhost
      have hnone := count_of_isNumber hdigits
      rw [List.count_append, List.count_cons_self] at h
      omega
    · rw [List.cons_append, List.head?_cons] at h
      rcases h with h | ⟨-, h⟩
      · rw [List.count_eq_zero] at h
        exact absurd (List.mem_cons_of_mem _ (List.mem_append_left _ hhost)) h
      · exact absurd rfl h
    · rfl
  · rintro rfl
    rcases h with h | ⟨hcolons, hbare⟩
    · exact .host h
    · exact .bare hcolons hbare

theorem denotes_hostPort_iff {before after : List Char} (hbefore : ':' ∉ before)
    (hafter : ':' ∉ after) : Denotes port (before ++ ':' :: after) address ↔
      IsNumber after ∧ address = ⟨before, decimalValue after⟩ := by
  have hcount : (before ++ ':' :: after).count ':' = 1 := by
    rw [List.count_append, List.count_cons_self, List.count_eq_zero.mpr hbefore,
      List.count_eq_zero.mpr hafter]
  constructor
  · intro h
    generalize htext : before ++ ':' :: after = text at h hcount
    cases h with
    | host hhost => omega
    | hostPort hhost hdigits =>
      obtain ⟨rfl, -, rfl⟩ := (List.append_cons_inj_of_notMem hbefore hafter).mp htext
      exact ⟨hdigits, rfl⟩
    | bracketed hhost hends hdigits =>
      have hsome := List.count_pos_iff.mpr hhost
      simp only [List.cons_append, List.count_cons, List.count_append] at hcount
      simp at hcount
      omega
    | bare hhost hbare => omega
  · rintro ⟨hdigits, rfl⟩
    exact .hostPort hbefore hdigits

theorem denotes_bracketed_iff (hcount : 1 < text.count ':') (hbracket : text.head? = some '[') :
    Denotes port text address ↔ ∃ hostIt, findDelimiter text = some hostIt ∧
      IsNumber (text.drop (hostIt + 2)) ∧
        address = ⟨(text.take hostIt).drop 1, decimalValue (text.drop (hostIt + 2))⟩ := by
  -- Where the delimiter is the first of all, the text is taken apart there.
  have hparts {before after : List Char} (h : text = before ++ ']' :: ':' :: after) :
      text.take before.length = before ∧ text.drop (before.length + 2) = after := by
    rw [h, List.take_left, ← List.drop_drop, List.drop_left]
    exact ⟨rfl, rfl⟩
  constructor
  · intro h
    cases h with
    | host hhost => omega
    | hostPort hhost hdigits =>
      have hnone := count_of_isNumber hdigits
      rw [List.count_append, List.count_cons_self, List.count_eq_zero.mpr hhost] at hcount
      omega
    | @bracketed host digits hhost hends hdigits =>
      have hfirst : ¬ [']', ':'] <:+: '[' :: host := by
        rw [List.infix_cons_iff, not_or]
        exact ⟨fun hbegins => absurd (List.cons_prefix_cons.mp hbegins).1 (by decide), hends⟩
      obtain ⟨htake, hdrop⟩ := hparts rfl
      refine ⟨_, findDelimiter_append hfirst, ?_⟩
      rw [htake, hdrop]
      exact ⟨hdigits, rfl⟩
    | bare hhost hbare => exact absurd hbracket hbare
  · rintro ⟨hostIt, hdelimiter, hdigits, rfl⟩
    obtain ⟨before, after, hsplit, rfl, hends⟩ := exists_of_findDelimiter hdelimiter
    obtain ⟨htake, hdrop⟩ := hparts hsplit
    rw [hdrop] at hdigits
    rw [htake, hdrop]
    obtain ⟨host, rfl⟩ : ∃ host, before = '[' :: host := by
      rw [hsplit] at hbracket
      cases before with
      | nil => cases hbracket
      | cons first host => exact ⟨host, by rw [Option.some.inj hbracket]⟩
    have hnone := count_of_isNumber hdigits
    rw [hsplit] at hcount
    simp only [List.cons_append, List.count_cons, List.count_append] at hcount
    simp at hcount
    rw [hsplit]
    refine .bracketed (List.count_pos_iff.mp (by omega)) ?_ hdigits
    exact fun hmem => hends (hmem.trans (List.suffix_cons _ _).isInfix)

theorem read_eq_ok {refused : Prop} {digits shortened : List Char} (check : NetworkAddress → Checked)
    {error : SocketError × NetworkAddress} (hcheck : ∀ value, check ⟨shortened, value⟩ = .ok address ↔
      ¬ refused ∧ InRange value ∧ ⟨shortened, value⟩ = address) :
    (match stoi digits with
      | none => Except.error error
      | some value => check ⟨shortened, value⟩) = .ok address ↔
      ∃ value, stoi digits = some value ∧ InRange value ∧ ¬ refused ∧
        address = ⟨shortened, value⟩ := by
  cases hvalue : stoi digits with
  | none => exact ⟨nofun, fun ⟨value, hsome, _⟩ => nomatch hsome⟩
  | some value =>
    rw [hcheck]
    constructor
    · exact fun ⟨hscope, hrange, heq⟩ => ⟨value, rfl, hrange, hscope, heq.symm⟩
    · rintro ⟨_, hsame, hrange, hscope, rfl⟩
      cases hsame
      exact ⟨hscope, hrange, rfl⟩

theorem hostPort_iff (hcount : text.count ':' = 1) :
    (∀ address, construct text port = .ok address ↔ Admits port text address) ↔
      ∀ value, stoi (text.drop (text.idxOf ':' + 1)) = some value → InRange value →
        IsNumber (text.drop (text.idxOf ':' + 1)) ∧ text.idxOf ':' < 2 ^ 31 := by
  have hmem : ':' ∈ text := List.count_pos_iff.mp (by omega)
  obtain ⟨before, after, hsplit, hbefore⟩ := List.eq_append_cons_of_mem hmem
  have hafter : ':' ∉ after := by
    rw [hsplit, List.count_append, List.count_cons_self, List.count_eq_zero.mpr hbefore] at hcount
    exact List.count_eq_zero.mp (by omega)
  have hindex : text.idxOf ':' = before.length := by
    rw [hsplit, List.idxOf_append_of_notMem hbefore, List.idxOf_cons_self, Nat.add_zero]
  have hdrop : text.drop (before.length + 1) = after := by
    rw [hsplit, ← List.drop_drop, List.drop_left, List.drop_one, List.tail_cons]
  have hkept : kept text 0 before.length = before ↔ before.length < 2 ^ 31 := by
    have hle : before.length ≤ text.length := by
      rw [hsplit, List.length_append]
      exact Nat.le_add_right _ _
    have htake : text.take before.length = before := by rw [hsplit, List.take_left]
    rw [← kept_eq_iff (Nat.zero_le 1) (Nat.zero_le _) hle, List.drop_zero, htake]
  have hcode (address : NetworkAddress) : construct text port = .ok address ↔
      ∃ value, stoi after = some value ∧ InRange value ∧ ¬ False ∧
        address = ⟨kept text 0 before.length, value⟩ := by
    rw [construct, if_pos hcount, hindex]
    dsimp only
    rw [hdrop]
    exact read_eq_ok checkPort fun value => checkPort_eq_ok.trans (and_iff_right id).symm
  have hadmits (address : NetworkAddress) : Admits port text address ↔ IsNumber after ∧
      InRange address.port ∧ ¬ False ∧ address = ⟨before, decimalValue after⟩ := by
    unfold Admits Unscoped
    rw [hsplit, denotes_hostPort_iff hbefore hafter]
    constructor
    · exact fun ⟨⟨hdigits, heq⟩, hrange, _⟩ => ⟨hdigits, hrange, id, heq⟩
    · rintro ⟨hdigits, hrange, -, rfl⟩
      refine ⟨⟨hdigits, rfl⟩, hrange, fun hunscoped => ?_⟩
      exact absurd (List.count_eq_zero.mpr hbefore) (Nat.ne_of_gt (Nat.lt_of_succ_lt hunscoped.1))
  rw [hindex, hdrop]
  simp only [hcode, hadmits, ← hkept]
  rw [port_iff fun _ => id]
  constructor
  · exact fun h value hvalue hrange => (h value hvalue hrange).2 id
  · exact fun h value hvalue hrange => ⟨False.elim, fun _ => h value hvalue hrange⟩

theorem bracketed_iff (hcount : 1 < text.count ':') (hbracket : text.head? = some '[') :
    (∀ address, construct text port = .ok address ↔ Admits port text address) ↔
      ∀ hostIt, findDelimiter text = some hostIt → ∀ value,
        stoi (text.drop (hostIt + 2)) = some value → InRange value →
          (Scopeless (kept text 1 hostIt) → IsNumber (text.drop (hostIt + 2)) →
            Unscoped ((text.take hostIt).drop 1)) ∧
          (¬ Scopeless (kept text 1 hostIt) →
            IsNumber (text.drop (hostIt + 2)) ∧ hostIt < 2 ^ 31) := by
  have hcode : construct text port = match findDelimiter text with
      | none => .error (.unknown, ⟨text, port⟩)
      | some hostIt =>
        if text.drop (hostIt + 2) = [] then .error (.badPort, ⟨text, port⟩)
        else
          match stoi (text.drop (hostIt + 2)) with
          | none => .error (.badPort, ⟨text, port⟩)
          | some port => checkScope ⟨kept text 1 hostIt, port⟩ := by
    rw [construct, if_neg (by omega), if_pos hcount, if_pos hbracket]
  cases hdelimiter : findDelimiter text with
  | none =>
    rw [hdelimiter] at hcode
    refine iff_of_true (fun address => ⟨fun h => (nomatch hcode.symm.trans h), fun h => ?_⟩) nofun
    obtain ⟨hostIt, hsome, -⟩ := (denotes_bracketed_iff hcount hbracket).mp h.1
    exact nomatch hdelimiter.symm.trans hsome
  | some hostIt =>
    rw [hdelimiter] at hcode
    obtain ⟨before, after, hsplit, rfl, -⟩ := exists_of_findDelimiter hdelimiter
    have hfirst : 1 ≤ before.length := by
      rw [hsplit] at hbracket
      cases before with
      | nil => cases hbracket
      | cons first host => exact Nat.le_add_left _ _
    have hle : before.length ≤ text.length := by
      rw [hsplit, List.length_append]
      exact Nat.le_add_right _ _
    have hkept := kept_eq_iff (Nat.le_refl 1) hfirst hle
    have haccepts (address : NetworkAddress) : construct text port = .ok address ↔
        ∃ value, stoi (text.drop (before.length + 2)) = some value ∧ InRange value ∧
          ¬ Scopeless (kept text 1 before.length) ∧ address = ⟨kept text 1 before.length, value⟩ := by
      rw [hcode]
      dsimp only
      split
      case isTrue hnone =>
        rw [hnone]
        exact ⟨nofun, fun ⟨value, hsome, _⟩ => nomatch hsome⟩
      case isFalse => exact read_eq_ok checkScope fun value => by rw [checkScope_eq_ok]
    have hadmits (address : NetworkAddress) : Admits port text address ↔
        IsNumber (text.drop (before.length + 2)) ∧ InRange address.port ∧
          ¬ Unscoped ((text.take before.length).drop 1) ∧
            address = ⟨(text.take before.length).drop 1,
              decimalValue (text.drop (before.length + 2))⟩ := by
      unfold Admits
      rw [denotes_bracketed_iff hcount hbracket]
      constructor
      · rintro ⟨⟨hostIt, hsome, hdigits, heq⟩, hrange, hscoped⟩
        cases hdelimiter.symm.trans hsome
        exact ⟨hdigits, hrange, by rwa [heq] at hscoped, heq⟩
      · rintro ⟨hdigits, hrange, hscoped, rfl⟩
        exact ⟨⟨_, hdelimiter, hdigits, rfl⟩, hrange, hscoped⟩
    simp only [haccepts, hadmits]
    rw [port_iff fun heq hunscoped => by rw [heq]; exact hunscoped.2]
    constructor
    · intro h hostIt hsome
      cases hsome
      rw [← hkept]
      exact h
    · intro h
      rw [hkept]
      exact h _ rfl

/-- **The grammar of addresses.** The constructor accepts just what the grammar admits, with just that
host and port, where the text is foreseen. -/
theorem construct_iff_admits (hostname : List Char) (port : Int) :
    (∀ address, construct hostname port = .ok address ↔ Admits port hostname address) ↔
      Foreseen hostname := by
  by_cases hone : hostname.count ':' = 1
  · refine (hostPort_iff hone).trans ⟨fun h => ⟨fun _ => h, fun hmore => ?_⟩, fun h => h.hostPort hone⟩
    omega
  by_cases hbracket : 1 < hostname.count ':' ∧ hostname.head? = some '['
  · refine (bracketed_iff hbracket.1 hbracket.2).trans
      ⟨fun h => ⟨fun h => absurd h hone, fun _ _ => h⟩, fun h => h.bracketed hbracket.1 hbracket.2⟩
  rw [not_and_or] at hbracket
  have hwhole : hostname.count ':' = 0 ∨ 1 < hostname.count ':' ∧ hostname.head? ≠ some '[' := by
    by_cases hmore : 1 < hostname.count ':'
    · exact .inr ⟨hmore, hbracket.resolve_left (not_not_intro hmore)⟩
    · exact .inl (by omega)
  refine iff_of_true (fun address => ?_) ⟨fun h => absurd h hone, fun hmore hfirst =>
    absurd hfirst (hbracket.resolve_left (not_not_intro hmore))⟩
  rw [Admits, denotes_whole_iff hwhole, construct, if_neg hone]
  rcases hwhole with hnone | ⟨hmore, hbare⟩
  · rw [if_neg (by omega), checkPort_eq_ok]
    constructor
    · rintro ⟨hrange, rfl⟩
      exact ⟨rfl, hrange, fun hunscoped => absurd hunscoped.1 (by dsimp only; omega)⟩
    · rintro ⟨rfl, hrange, -⟩
      exact ⟨hrange, rfl⟩
  · rw [if_pos hmore, if_neg hbare, checkScope_eq_ok]
    constructor
    · rintro ⟨hscope, hrange, rfl⟩
      exact ⟨rfl, hrange, fun hunscoped => hscope hunscoped.2⟩
    · rintro ⟨rfl, hrange, hscoped⟩
      exact ⟨fun hscopeless => hscoped ⟨hmore, hscopeless⟩, hrange, rfl⟩

/-- What follows the digits of a port is ignored. -/
theorem trailing_text_ignored : ¬ ∀ address, construct ['h', ':', '8', '0', 'a'] 24800 = .ok address ↔
    Admits 24800 ['h', ':', '8', '0', 'a'] address := by
  intro h
  have hcount : ['h', ':', '8', '0', 'a'].count ':' = 1 := by decide
  have hnumber := (hostPort_iff hcount).mp h 80 (by decide) (by decide)
  exact absurd hnumber.1 (by decide)

end NetworkAddress

end DeskflowPlus
