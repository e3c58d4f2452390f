import DeskflowPlus.Transfer.CapabilityCodec

/-!
# The grammar of feature lists

A feature list has between 1 and 64 different tokens, each of a letter or digit and up to 63 letters,
digits, dots, underscores and dashes. Writing, reading and negotiating accept these lists, and the
lists in which a line feed follows some of the tokens.
-/

namespace DeskflowPlus.Transfer

open Checks

namespace CapabilityCodec

def IsToken (text : QString) : Prop :=
  ∃ first rest, text = first :: rest ∧ isTokenStart first = true ∧ rest.length ≤ 63 ∧
    ∀ unit ∈ rest, isTokenUnit unit = true

/-- The grammar. -/
structure IsFeatureList (features : List QString) : Prop where
  nonempty : features ≠ []
  bounded : features.length ≤ 64
  distinct : features.Nodup
  tokens : ∀ feature ∈ features, IsToken feature

def IsLine (text : QString) : Prop :=
  ∃ token, IsToken token ∧ token.length ≤ 63 ∧ text = token ++ [0x0a]

/-- A list that would be one of the grammar but for line feeds. -/
structure HasLines (features : List QString) : Prop where
  nonempty : features ≠ []
  bounded : features.length ≤ 64
  distinct : features.Nodup
  tokens : ∀ feature ∈ features, IsToken feature ∨ IsLine feature
  line : ∃ feature ∈ features, IsLine feature

theorem isTokenUnit_of_isTokenStart {unit : UInt16} (h : isTokenStart unit = true) :
    isTokenUnit unit = true := by
  simp [isTokenUnit, h]

theorem toNat_lt_of_isTokenUnit {unit : UInt16} (h : isTokenUnit unit = true) :
    unit.toNat < 0x80 := by
  simp only [isTokenUnit, isTokenStart, Bool.or_eq_true, Bool.and_eq_true, decide_eq_true_eq,
    UInt16.le_iff_toNat_le, ← UInt16.toNat_inj] at h
  have hz : (0x7a : UInt16).toNat = 0x7a := rfl
  have hnine : (0x39 : UInt16).toNat = 0x39 := rfl
  have hdot : (0x2e : UInt16).toNat = 0x2e := rfl
  have hunderscore : (0x5f : UInt16).toNat = 0x5f := rfl
  have hdash : (0x2d : UInt16).toNat = 0x2d := rfl
  omega

theorem isTokenUnit_lineFeed : isTokenUnit 0x0a = false := by
  decide

variable {text : QString}

theorem length_toUtf8_of_ascii (h : ∀ unit ∈ text, unit.toNat < 0x80) :
    text.toUtf8.length = text.length := by
  induction text with
  | nil => rfl
  | cons unit rest ih =>
    have hunit := h unit List.mem_cons_self
    have hhigh : QString.isHighSurrogate unit = false := by
      rw [Bool.eq_false_iff, Ne, QString.isHighSurrogate_iff]
      omega
    have hlow : QString.isLowSurrogate unit = false := by
      rw [Bool.eq_false_iff, Ne, QString.isLowSurrogate_iff]
      omega
    have hone : (QString.unitToUtf8 unit).length = 1 := by
      rw [QString.unitToUtf8, if_pos hunit]
      rfl
    rw [QString.toUtf8_cons_of_not_high hhigh, List.length_append, hone,
      ih fun other hother => h other (List.mem_cons_of_mem _ hother), List.length_cons, Nat.add_comm]

theorem IsToken.units (h : IsToken text) : ∀ unit ∈ text, isTokenUnit unit = true := by
  obtain ⟨first, rest, rfl, hfirst, -, hrest⟩ := h
  intro unit hunit
  rcases List.mem_cons.mp hunit with rfl | hunit
  · exact isTokenUnit_of_isTokenStart hfirst
  · exact hrest unit hunit

theorem IsToken.length_le (h : IsToken text) : text.length ≤ 64 := by
  obtain ⟨first, rest, rfl, -, hlength, -⟩ := h
  rw [List.length_cons]
  omega

theorem IsToken.not_isLine (h : IsToken text) : ¬ IsLine text := by
  rintro ⟨token, -, -, rfl⟩
  have hline := h.units 0x0a (by simp)
  rw [isTokenUnit_lineFeed] at hline
  cases hline

theorem kFeaturePattern_iff :
    kFeaturePattern text = true ↔ IsToken text ∨ ∃ token, IsToken token ∧ text = token ++ [0x0a] := by
  cases text with
  | nil =>
    refine iff_of_false nofun ?_
    rintro (⟨_, _, h, -⟩ | ⟨token, -, h⟩)
    · cases h
    · simp at h
  | cons first rest =>
    by_cases hline : rest.getLast? = some 0x0a
    · obtain ⟨body, rfl⟩ := List.getLast?_eq_some_iff.mp hline
      have hpattern : kFeaturePattern (first :: (body ++ [0x0a])) =
          (isTokenStart first && body.length ≤ 63 && body.all isTokenUnit) := by
        simp [kFeaturePattern]
      rw [hpattern]
      simp only [Bool.and_eq_true, decide_eq_true_eq, List.all_eq_true]
      constructor
      · rintro ⟨⟨hfirst, hlength⟩, hbody⟩
        exact .inr ⟨first :: body, ⟨first, body, rfl, hfirst, hlength, hbody⟩, rfl⟩
      · rintro (htoken | ⟨token, ⟨_, _, rfl, hfirst, hlength, hbody⟩, heq⟩)
        · have hfeed := htoken.units 0x0a (by simp)
          rw [isTokenUnit_lineFeed] at hfeed
          cases hfeed
        · rw [List.cons_append] at heq
          injection heq with hhead htail
          obtain rfl := List.append_cancel_right htail
          subst hhead
          exact ⟨⟨hfirst, hlength⟩, hbody⟩
    · have hpattern : kFeaturePattern (first :: rest) =
          (isTokenStart first && rest.length ≤ 63 && rest.all isTokenUnit) := by
        rw [kFeaturePattern, if_neg hline]
      rw [hpattern]
      simp only [Bool.and_eq_true, decide_eq_true_eq, List.all_eq_true]
      constructor
      · rintro ⟨⟨hfirst, hlength⟩, hbody⟩
        exact .inl ⟨first, rest, rfl, hfirst, hlength, hbody⟩
      · rintro (⟨_, _, heq, hfirst, hlength, hbody⟩ | ⟨token, htoken, heq⟩)
        · cases heq
          exact ⟨⟨hfirst, hlength⟩, hbody⟩
        · obtain ⟨start, body, rfl, -⟩ := htoken
          rw [List.cons_append] at heq
          injection heq with _ htail
          rw [htail] at hline
          simp at hline

theorem feature_accepted_iff {feature : QString} :
    (feature.toUtf8.length ≤ kMaximumTokenUtf8Bytes ∧ kFeaturePattern feature = true) ↔
      IsToken feature ∨ IsLine feature := by
  rw [kFeaturePattern_iff]
  constructor
  · rintro ⟨hlength, htoken | ⟨token, htoken, rfl⟩⟩
    · exact .inl htoken
    · refine .inr ⟨token, htoken, ?_, rfl⟩
      rw [length_toUtf8_of_ascii, List.length_append, List.length_singleton] at hlength
      · exact Nat.le_of_succ_le_succ hlength
      · intro unit hunit
        rcases List.mem_append.mp hunit with hunit | hunit
        · exact toNat_lt_of_isTokenUnit (htoken.units unit hunit)
        · rw [List.mem_singleton.mp hunit]
          decide
  · rintro (htoken | ⟨token, htoken, hlength, rfl⟩)
    · refine ⟨?_, .inl htoken⟩
      rw [length_toUtf8_of_ascii fun unit hunit => toNat_lt_of_isTokenUnit (htoken.units unit hunit)]
      exact htoken.length_le
    · refine ⟨?_, .inr ⟨token, htoken, rfl⟩⟩
      rw [length_toUtf8_of_ascii, List.length_append, List.length_singleton]
      · exact Nat.succ_le_succ hlength
      · intro unit hunit
        rcases List.mem_append.mp hunit with hunit | hunit
        · exact toNat_lt_of_isTokenUnit (htoken.units unit hunit)
        · rw [List.mem_singleton.mp hunit]
          decide

variable {features : List QString}

theorem validateFeatures_iff :
    validateFeatures features = .ok () ↔ IsFeatureList features ∨ HasLines features := by
  rw [validateFeatures, require_bind_eq_ok, require_eq_ok]
  simp only [feature_accepted_iff]
  constructor
  · rintro ⟨⟨hnonempty, hbounded⟩, htokens, hdistinct⟩
    by_cases hline : ∃ feature ∈ features, IsLine feature
    · exact .inr ⟨hnonempty, hbounded, hdistinct, htokens, hline⟩
    · refine .inl ⟨hnonempty, hbounded, hdistinct, fun feature hfeature => ?_⟩
      exact (htokens feature hfeature).resolve_right fun h => hline ⟨feature, hfeature, h⟩
  · rintro (h | h)
    · exact ⟨⟨h.nonempty, h.bounded⟩, fun feature hfeature => .inl (h.tokens feature hfeature),
        h.distinct⟩
    · exact ⟨⟨h.nonempty, h.bounded⟩, h.tokens, h.distinct⟩

theorem HasLines.not_isFeatureList (h : HasLines features) :
    ¬ IsFeatureList features := by
  obtain ⟨feature, hfeature, hline⟩ := h.line
  exact fun hlist => (hlist.tokens feature hfeature).not_isLine hline

theorem validateFeatures_iff_isFeatureList_iff :
    (validateFeatures features = .ok () ↔ IsFeatureList features) ↔ ¬ HasLines features := by
  rw [validateFeatures_iff]
  constructor
  · exact fun h hlines => hlines.not_isFeatureList (h.mp (.inr hlines))
  · exact fun h => or_iff_left h

structure FitsBut (message : CapabilitiesMessage) : Prop where
  limits : validateLimits message = .ok ()
  policies : validatePolicies message.conflictPolicies = .ok ()

theorem validate_iff {message : CapabilitiesMessage} (hmessage : FitsBut message) :
    validate message = .ok () ↔ validateFeatures message.features = .ok () := by
  rw [validate, unit_bind_eq_ok, unit_bind_eq_ok]
  exact and_iff_left ⟨hmessage.limits, hmessage.policies⟩

theorem encode_iff {message : CapabilitiesMessage} (hmessage : FitsBut message) :
    (∃ metadata, encode message = .ok metadata) ↔ validateFeatures message.features = .ok () := by
  rw [← validate_iff hmessage]
  constructor
  · rintro ⟨metadata, h⟩
    exact (unit_bind_eq_ok.mp h).1
  · intro h
    exact ⟨_, unit_bind_eq_ok.mpr ⟨h, rfl⟩⟩

theorem decode_iff {metadata : QByteArray} {map : QCborMap}
    (hmap : SessionMessageCodec.parseMap metadata = some map) (hfields : hasExactFields map = true)
    (hfeatures : readStrings (map.value 1) = some features) :
    (∀ text, decode .capabilities metadata ≠ .error (.invalidFeatures, text)) ↔
      validateFeatures features = .ok () := by
  unfold decode
  rw [require_of rfl, ok_bind, hmap, present_some, ok_bind, require_of hfields, ok_bind, readFeatures,
    hfeatures, Option.bind_some]
  cases validateFeatures features with
  | error error =>
    refine iff_of_false (fun h => ?_) nofun
    exact h "CAPABILITIES feature list is invalid" rfl
  | ok _ =>
    refine iff_of_true (fun text h => ?_) rfl
    dsimp only at h
    rw [present_some, ok_bind] at h
    -- the later checks fail with other errors
    simp only [bind_eq_error, present_eq_error, require_eq_error, Prod.mk.injEq, reduceCtorEq,
      false_and, and_false, or_false, exists_false, pure, Except.pure] at h

end CapabilityCodec

namespace CapabilityNegotiator

open CapabilityCodec

variable {localVersions peerVersions : List UInt16} {own peer : CapabilitiesMessage}

theorem exists_max_of_ne_nil {versions : List UInt16} (h : versions ≠ []) :
    ∃ version, versions.max? = some version := by
  obtain ⟨first, rest, rfl⟩ := List.exists_cons_of_ne_nil h
  exact ⟨_, List.max?_cons'⟩

theorem negotiate_own_iff (hown : FitsBut own)
    (hversions : intersectionPreservingLocalOrder localVersions peerVersions ≠ []) :
    (∀ text, negotiate localVersions own peerVersions peer ≠
        .error (.invalidLocalCapabilities, text)) ↔
      validateFeatures own.features = .ok () := by
  obtain ⟨version, hversion⟩ := exists_max_of_ne_nil hversions
  unfold negotiate
  dsimp only
  rw [hversion, present_some, ok_bind, ← validate_iff hown]
  constructor
  · intro h
    rcases eq_ok_or_exists_error (validate own) with hvalid | ⟨error, herror⟩
    · exact hvalid
    · refine absurd ?_ (h error)
      exact bind_eq_error.mpr (.inl (mapError_eq_error.mpr ⟨error, herror, rfl⟩))
  · intro hvalid text h
    rw [hvalid] at h
    -- the later checks fail with other errors
    simp only [bind_eq_error, mapError_eq_error, require_eq_error, Prod.mk.injEq,
      reduceCtorEq, false_and, and_false, or_false, exists_false, pure, Except.pure] at h

theorem negotiate_peer_iff (hpeer : FitsBut peer) (hown : validate own = .ok ())
    (hversions : intersectionPreservingLocalOrder localVersions peerVersions ≠ []) :
    (∀ text, negotiate localVersions own peerVersions peer ≠
        .error (.invalidPeerCapabilities, text)) ↔
      validateFeatures peer.features = .ok () := by
  obtain ⟨version, hversion⟩ := exists_max_of_ne_nil hversions
  unfold negotiate
  dsimp only
  rw [hversion, present_some, ok_bind, hown, ← validate_iff hpeer]
  constructor
  · intro h
    rcases eq_ok_or_exists_error (validate peer) with hvalid | ⟨error, herror⟩
    · exact hvalid
    · refine absurd ?_ (h error)
      refine bind_eq_error.mpr (.inr ⟨(), rfl, ?_⟩)
      exact bind_eq_error.mpr (.inl (mapError_eq_error.mpr ⟨error, herror, rfl⟩))
  · intro hvalid text h
    rw [hvalid] at h
    simp only [bind_eq_error, mapError_eq_error, require_eq_error, Prod.mk.injEq, reduceCtorEq,
      false_and, and_false, or_false, exists_false, pure, Except.pure] at h

end CapabilityNegotiator

namespace CapabilityCodec

open CapabilityNegotiator

structure FollowsGrammar (features : List QString) : Prop where
  encode : ∀ message, FitsBut message → message.features = features →
    ((∃ metadata, encode message = .ok metadata) ↔ IsFeatureList features)
  decode : ∀ metadata map, SessionMessageCodec.parseMap metadata = some map →
    hasExactFields map = true → readStrings (map.value 1) = some features →
    ((∀ text, decode .capabilities metadata ≠ .error (.invalidFeatures, text)) ↔
      IsFeatureList features)
  negotiateOwn : ∀ localVersions peerVersions own peer, FitsBut own → own.features = features →
    intersectionPreservingLocalOrder localVersions peerVersions ≠ [] →
    ((∀ text, negotiate localVersions own peerVersions peer ≠
        .error (.invalidLocalCapabilities, text)) ↔ IsFeatureList features)
  negotiatePeer : ∀ localVersions peerVersions own peer, FitsBut peer → peer.features = features →
    validate own = .ok () → intersectionPreservingLocalOrder localVersions peerVersions ≠ [] →
    ((∀ text, negotiate localVersions own peerVersions peer ≠
        .error (.invalidPeerCapabilities, text)) ↔ IsFeatureList features)

theorem FollowsGrammar.of_validateFeatures {features : List QString}
    (h : validateFeatures features = .ok () ↔ IsFeatureList features) : FollowsGrammar features where
  encode := by
    rintro message hmessage rfl
    exact (encode_iff hmessage).trans h
  decode := fun _ _ hmap hfields hfeatures => (decode_iff hmap hfields hfeatures).trans h
  negotiateOwn := by
    rintro _ _ own peer hown rfl hversions
    exact (negotiate_own_iff hown hversions).trans h
  negotiatePeer := by
    rintro _ _ own peer hpeer rfl hown hversions
    exact (negotiate_peer_iff hpeer hown hversions).trans h

theorem fitsBut_default (features : List QString) : FitsBut { features } :=
  ⟨rfl, rfl⟩

/-- **The grammar of feature lists.** All paths follow it, on exactly the lists that are not made of
tokens with line feeds. -/
theorem followsGrammar_iff_not_hasLines (features : List QString) :
    FollowsGrammar features ↔ ¬ HasLines features := by
  rw [← validateFeatures_iff_isFeatureList_iff]
  constructor
  · intro h
    exact (encode_iff (fitsBut_default features)).symm.trans
      (h.encode { features } (fitsBut_default features) rfl)
  · exact FollowsGrammar.of_validateFeatures

/-- The name of a feature, and a line feed. -/
theorem feature_with_line_feed :
    ¬ ∀ features : List QString, FollowsGrammar features := by
  intro h
  have haccepted : ∃ metadata, encode { features := [QString.literal "file.v1\n"] } = .ok metadata :=
    (encode_iff (fitsBut_default _)).mpr (by decide)
  have hlist := ((h _).encode _ (fitsBut_default _) rfl).mp haccepted
  have hfeed := (hlist.tokens _ List.mem_cons_self).units 0x0a (by decide)
  rw [isTokenUnit_lineFeed] at hfeed
  cases hfeed

end CapabilityCodec

end DeskflowPlus.Transfer
