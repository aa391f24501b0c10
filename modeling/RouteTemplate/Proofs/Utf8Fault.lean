import Mathlib.Order.Bounds.Basic
import RouteTemplate.Proofs.Outcome
import RouteTemplate.Proofs.Utf8

/-!
# RouteTemplate.Proofs.Utf8Fault — where bytes stop being UTF-8

Bytes that are no text are the bytes of some text and then a fault (`FaultAt`): a byte that begins
no character, the beginning of a character with a byte behind it that does not go on with it, or the
beginning of a character at the end.  No character begins another one
(`eq_of_utf8EncodeChar_append_eq`), so the text in front of the fault is the longest there is, and
the bytes alone say what the numbers of the fault are (`describes_of_decode`).
-/

namespace RouteTemplate.Utf8

/-! ### The rule for one character -/

/-- Bytes that follow the rule for one character. -/
inductive CharBytes : List UInt8 → Prop
  | one {b : UInt8} (hb : b.toNat < 0x80) : CharBytes [b]
  | two {b b₁ : UInt8} {l : Lead} (hl : lead? b = some l) (ha : l.admits b₁ = true)
      (hm : l.more = 0) : CharBytes [b, b₁]
  | three {b b₁ b₂ : UInt8} {l : Lead} (hl : lead? b = some l) (ha : l.admits b₁ = true)
      (hm : l.more = 1) (hc : isContinuation b₂ = true) : CharBytes [b, b₁, b₂]
  | four {b b₁ b₂ b₃ : UInt8} {l : Lead} (hl : lead? b = some l) (ha : l.admits b₁ = true)
      (hm : l.more = 2) (hc : isContinuation b₂ = true) (hd : isContinuation b₃ = true) :
      CharBytes [b, b₁, b₂, b₃]

/-- Bytes that follow the rule for one character and stop before its end. -/
inductive PartBytes : List UInt8 → Prop
  | one {b : UInt8} {l : Lead} (hl : lead? b = some l) : PartBytes [b]
  | two {b b₁ : UInt8} {l : Lead} (hl : lead? b = some l) (ha : l.admits b₁ = true)
      (hm : l.more ≠ 0) : PartBytes [b, b₁]
  | three {b b₁ b₂ : UInt8} {l : Lead} (hl : lead? b = some l) (ha : l.admits b₁ = true)
      (hm : l.more = 2) (hc : isContinuation b₂ = true) : PartBytes [b, b₁, b₂]

theorem more_of_lead? {b : UInt8} {l : Lead} (h : lead? b = some l) :
    l.more = 0 ∨ l.more = 1 ∨ l.more = 2 := by
  have hl := lead?_eq_some h
  omega

/-- Bytes that follow the rule for one character as far as they go. -/
def Follows (p : List UInt8) : Prop := PartBytes p ∨ CharBytes p

/-- Bytes at fault, with the length that the fault is given. -/
inductive FaultAt : List UInt8 → Option Nat → Prop
  | unknown {b : UInt8} {r : List UInt8} (hb : ¬ Follows [b]) : FaultAt (b :: r) (some 1)
  | broken {p r : List UInt8} {x : UInt8} (hp : PartBytes p) (hx : ¬ Follows (p ++ [x])) :
      FaultAt (p ++ x :: r) (some p.length)
  | cutOff {p : List UInt8} (hp : PartBytes p) : FaultAt p none

theorem Follows.one {b : UInt8} (h : Follows [b]) : b.toNat < 0x80 ∨ ∃ l, lead? b = some l := by
  rcases h with h | h
  · cases h with
    | one hl => exact .inr ⟨_, hl⟩
  · cases h with
    | one hb => exact .inl hb

theorem Follows.two {b b₁ : UInt8} (h : Follows [b, b₁]) :
    ∃ l, lead? b = some l ∧ l.admits b₁ = true := by
  rcases h with h | h
  · cases h with
    | two hl ha hm => exact ⟨_, hl, ha⟩
  · cases h with
    | two hl ha hm => exact ⟨_, hl, ha⟩

theorem Follows.three {b b₁ b₂ : UInt8} (h : Follows [b, b₁, b₂]) :
    isContinuation b₂ = true := by
  rcases h with h | h
  · cases h with
    | three hl ha hm hc => exact hc
  · cases h with
    | three hl ha hm hc => exact hc

theorem Follows.four {b b₁ b₂ b₃ : UInt8} (h : Follows [b, b₁, b₂, b₃]) :
    isContinuation b₃ = true := by
  rcases h with h | h
  · cases h
  · cases h with
    | four hl ha hm hc hd => exact hd

/-- At the front of bytes there is a character, or a fault that the reading stops at. -/
theorem decodeFrom_cases (pos : Nat) (bs : List UInt8) :
    bs = [] ∨ (∃ e rest, CharBytes e ∧ bs = e ++ rest) ∨
      ∃ length, FaultAt bs length ∧ decodeFrom pos bs = .error ⟨pos, length⟩ := by
  fun_cases decodeFrom pos bs with
  | case1 => exact .inl rfl
  | case2 b r hb => exact .inr (.inl ⟨[b], r, .one hb, rfl⟩)
  | case3 b r hb hl =>
    refine .inr (.inr ⟨_, .unknown fun h => ?_, rfl⟩)
    rcases h.one with hlt | ⟨l, hl'⟩
    · exact hb hlt
    · rw [hl] at hl'
      cases hl'
  | case4 b hb l hl => exact .inr (.inr ⟨_, .cutOff (.one hl), rfl⟩)
  | case5 b hb l hl b₁ r ha =>
    refine .inr (.inr ⟨_, .broken (p := [b]) (.one hl) fun h => ?_, rfl⟩)
    obtain ⟨l', hl', ha'⟩ := h.two
    rw [hl] at hl'
    cases hl'
    simp [ha'] at ha
  | case6 b hb l hl b₁ r ha hm =>
    exact .inr (.inl ⟨[b, b₁], r, .two hl (by simpa using ha) hm, rfl⟩)
  | case7 b hb l hl b₁ ha hm =>
    exact .inr (.inr ⟨_, .cutOff (.two hl (by simpa using ha) hm), rfl⟩)
  | case8 b hb l hl b₁ ha hm b₂ r hc =>
    refine .inr (.inr ⟨_, .broken (p := [b, b₁]) (.two hl (by simpa using ha) hm) fun h => ?_,
      rfl⟩)
    simp [h.three] at hc
  | case9 b hb l hl b₁ ha hm b₂ r hc hm' =>
    exact .inr (.inl ⟨[b, b₁, b₂], r, .three hl (by simpa using ha) hm' (by simpa using hc), rfl⟩)
  | case10 b hb l hl b₁ ha hm b₂ hc hm' =>
    have hmore := more_of_lead? hl
    refine .inr (.inr ⟨_, .cutOff (.three hl ?_ ?_ ?_), rfl⟩)
    · simpa using ha
    · omega
    · simpa using hc
  | case11 b hb l hl b₁ ha hm b₂ hc hm' b₃ r hd =>
    have hmore := more_of_lead? hl
    refine .inr (.inr ⟨_, .broken (p := [b, b₁, b₂]) (.three hl ?_ ?_ ?_) fun h => ?_, rfl⟩)
    · simpa using ha
    · omega
    · simpa using hc
    · simp [h.four] at hd
  | case12 b hb l hl b₁ ha hm b₂ hc hm' b₃ r hd =>
    have hmore := more_of_lead? hl
    refine .inr (.inl ⟨[b, b₁, b₂, b₃], r, .four hl ?_ ?_ ?_ ?_, rfl⟩)
    · simpa using ha
    · omega
    · simpa using hc
    · simpa using hd

/-! ### The rule and the characters -/

theorem CharBytes.exists_char {e : List UInt8} (h : CharBytes e) :
    ∃ c, e = String.utf8EncodeChar c := by
  cases h with
  | one hb => exact ⟨_, (utf8EncodeChar_of_one hb).symm⟩
  | two hl ha hm => exact ⟨_, (utf8EncodeChar_of_two hl ha hm).symm⟩
  | three hl ha hm hc => exact ⟨_, (utf8EncodeChar_of_three hl ha hm hc).symm⟩
  | four hl ha hm hc hd => exact ⟨_, (utf8EncodeChar_of_four hl ha hm hc hd).symm⟩

/-- No character begins another one. -/
theorem eq_of_utf8EncodeChar_append_eq {c d : Char} {r : List UInt8}
    (h : String.utf8EncodeChar c ++ r = String.utf8EncodeChar d) : c = d ∧ r = [] := by
  have hd : decodeFrom 0 (String.utf8EncodeChar d) = .ok [d] := by
    have hread := decodeFrom_bytes 0 [d]
    rwa [bytes_cons, bytes_nil, List.append_nil] at hread
  rw [← h, decodeFrom_utf8EncodeChar] at hd
  obtain ⟨cs, hr, hcs⟩ := map_cons_eq_ok hd
  obtain ⟨rfl, rfl⟩ := List.cons.inj hcs
  exact ⟨rfl, eq_bytes_of_decodeFrom hr⟩

theorem utf8EncodeChar_ne_nil (c : Char) : String.utf8EncodeChar c ≠ [] := by
  intro h
  have hlength := congrArg List.length h
  have hpos := c.utf8Size_pos
  simp at hlength
  omega

theorem charBytes_utf8EncodeChar (c : Char) : CharBytes (String.utf8EncodeChar c) := by
  rcases decodeFrom_cases 0 (String.utf8EncodeChar c) with h | ⟨e, rest, he, heq⟩ | ⟨length, -, h⟩
  · exact absurd h (utf8EncodeChar_ne_nil c)
  · obtain ⟨d, rfl⟩ := he.exists_char
    obtain ⟨rfl, -⟩ := eq_of_utf8EncodeChar_append_eq heq.symm
    exact he
  · have hread := decodeFrom_bytes 0 [c]
    rw [bytes_cons, bytes_nil, List.append_nil, h] at hread
    cases hread

theorem PartBytes.ne_nil {p : List UInt8} (h : PartBytes p) : p ≠ [] := by
  rintro rfl
  cases h

/-- What follows the rule can be completed. -/
theorem exists_charBytes {b b₁ : UInt8} {l : Lead} (hl : lead? b = some l)
    (ha : l.admits b₁ = true) : ∃ t, t.length = l.more ∧ CharBytes (b :: b₁ :: t) := by
  have hcont : isContinuation 0x80 = true := by decide
  rcases more_of_lead? hl with hm | hm | hm
  · exact ⟨[], hm.symm, .two hl ha hm⟩
  · exact ⟨[0x80], hm.symm, .three hl ha hm hcont⟩
  · exact ⟨[0x80, 0x80], hm.symm, .four hl ha hm hcont hcont⟩

/-- Every lead byte admits some second byte. -/
theorem exists_admits {b : UInt8} {l : Lead} (h : lead? b = some l) :
    ∃ b₁, l.admits b₁ = true := by
  have hl := lead?_eq_some h
  have hlo : (UInt8.ofNat l.lo).toNat = l.lo := toNat_ofNat (by omega)
  exact ⟨UInt8.ofNat l.lo, Lead.admits_iff.mpr ⟨by omega, by omega⟩⟩

/-- The beginnings of a character by the rule are those of the characters. -/
theorem PartBytes.exists_char {p : List UInt8} (h : PartBytes p) :
    ∃ c, p <+: String.utf8EncodeChar c ∧ p ≠ String.utf8EncodeChar c := by
  suffices hbytes : ∃ r, r ≠ [] ∧ CharBytes (p ++ r) by
    obtain ⟨r, hr, hchar⟩ := hbytes
    obtain ⟨c, hc⟩ := hchar.exists_char
    refine ⟨c, ⟨r, hc⟩, fun heq => hr ?_⟩
    rw [← hc] at heq
    exact List.append_right_eq_self.mp heq.symm
  cases h with
  | one hl =>
    obtain ⟨b₁, ha⟩ := exists_admits hl
    obtain ⟨t, -, hchar⟩ := exists_charBytes hl ha
    exact ⟨b₁ :: t, List.cons_ne_nil _ _, hchar⟩
  | two hl ha hm =>
    obtain ⟨t, hlength, hchar⟩ := exists_charBytes hl ha
    refine ⟨t, ?_, hchar⟩
    rintro rfl
    exact hm hlength.symm
  | three hl ha hm hc =>
    exact ⟨[0x80], List.cons_ne_nil _ _, .four hl ha hm hc (by decide)⟩

/-- A beginning of what follows the rule follows it, too. -/
theorem partBytes_of_charBytes {p e : List UInt8} (h : CharBytes e) (hp : p <+: e) (hne : p ≠ [])
    (hlt : p ≠ e) : PartBytes p := by
  obtain ⟨x, p, rfl⟩ := List.exists_cons_of_ne_nil hne
  cases h with
  | one hb =>
    simp only [List.cons_prefix_cons, List.prefix_nil] at hp
    obtain ⟨rfl, rfl⟩ := hp
    exact absurd rfl hlt
  | two hl ha hm =>
    rcases p with _ | ⟨x₁, p⟩ <;> simp only [List.cons_prefix_cons, List.prefix_nil] at hp
    · obtain ⟨rfl, -⟩ := hp
      exact .one hl
    · obtain ⟨rfl, rfl, rfl⟩ := hp
      exact absurd rfl hlt
  | three hl ha hm hc =>
    rcases p with _ | ⟨x₁, _ | ⟨x₂, p⟩⟩ <;>
      simp only [List.cons_prefix_cons, List.prefix_nil] at hp
    · obtain ⟨rfl, -⟩ := hp
      exact .one hl
    · obtain ⟨rfl, rfl, -⟩ := hp
      exact .two hl ha (by omega)
    · obtain ⟨rfl, rfl, rfl, rfl⟩ := hp
      exact absurd rfl hlt
  | four hl ha hm hc hd =>
    rcases p with _ | ⟨x₁, _ | ⟨x₂, _ | ⟨x₃, p⟩⟩⟩ <;>
      simp only [List.cons_prefix_cons, List.prefix_nil] at hp
    · obtain ⟨rfl, -⟩ := hp
      exact .one hl
    · obtain ⟨rfl, rfl, -⟩ := hp
      exact .two hl ha (by omega)
    · obtain ⟨rfl, rfl, rfl, -⟩ := hp
      exact .three hl ha hm hc
    · obtain ⟨rfl, rfl, rfl, rfl, rfl⟩ := hp
      exact absurd rfl hlt

/-! ### Faults -/

/-- Bytes that begin a character, or are one. -/
def Begins (p : List UInt8) : Prop := ∃ c, p <+: String.utf8EncodeChar c

/-- Bytes that begin a character and are cut off before its end. -/
def Incomplete (p : List UInt8) : Prop :=
  p ≠ [] ∧ ∃ c, p <+: String.utf8EncodeChar c ∧ p ≠ String.utf8EncodeChar c

theorem partBytes_iff_incomplete {p : List UInt8} : PartBytes p ↔ Incomplete p := by
  constructor
  · exact fun h => ⟨h.ne_nil, h.exists_char⟩
  · rintro ⟨hne, c, hp, hlt⟩
    exact partBytes_of_charBytes (charBytes_utf8EncodeChar c) hp hne hlt

theorem follows_of_begins {p : List UInt8} (hne : p ≠ []) (h : Begins p) : Follows p := by
  obtain ⟨c, hp⟩ := h
  by_cases heq : p = String.utf8EncodeChar c
  · exact .inr (heq ▸ charBytes_utf8EncodeChar c)
  · exact .inl (partBytes_iff_incomplete.mpr ⟨hne, c, hp, heq⟩)

theorem Begins.of_isPrefix {p q : List UInt8} (h : Begins q) (hp : p <+: q) : Begins p := by
  obtain ⟨c, hq⟩ := h
  exact ⟨c, hp.trans hq⟩

theorem Incomplete.begins {p : List UInt8} (h : Incomplete p) : Begins p := by
  obtain ⟨-, c, hp, -⟩ := h
  exact ⟨c, hp⟩

/-- What is cut off within a character holds no other one at its front. -/
theorem Incomplete.no_char {p : List UInt8} (h : Incomplete p) (c : Char) :
    ¬ String.utf8EncodeChar c <+: p := by
  obtain ⟨-, d, hp, hne⟩ := h
  intro hc
  obtain ⟨r, hr⟩ := hc.trans hp
  obtain ⟨rfl, -⟩ := eq_of_utf8EncodeChar_append_eq hr
  exact hne (hp.eq_of_length_le hc.length_le)

/-- A byte more than what is longer begins nothing either. -/
theorem concat_prefix_of_length_lt {p q r : List UInt8} {x : UInt8} (h : q <+: p ++ x :: r)
    (hlt : p.length < q.length) : p ++ [x] <+: q := by
  refine List.prefix_of_prefix_length_le ⟨r, by rw [List.append_assoc]; rfl⟩ h ?_
  rw [List.length_append]
  exact hlt

/-- The lengths of the texts at the front of bytes. -/
def textLengths (bs : List UInt8) : Set Nat :=
  {n | ∃ text, bytes text <+: bs ∧ (bytes text).length = n}

/-- The lengths of what begins a character at the front of bytes. -/
def beginningLengths (bs : List UInt8) : Set Nat :=
  {n | ∃ p, p ≠ [] ∧ p <+: bs ∧ Begins p ∧ p.length = n}

theorem FaultAt.no_char {bs : List UInt8} {length : Option Nat} (h : FaultAt bs length)
    (c : Char) : ¬ String.utf8EncodeChar c <+: bs := by
  intro hc
  cases h with
  | @unknown b r hb =>
    obtain ⟨x, e, he⟩ := List.exists_cons_of_ne_nil (utf8EncodeChar_ne_nil c)
    rw [he, List.cons_prefix_cons] at hc
    obtain ⟨rfl, -⟩ := hc
    exact hb (follows_of_begins (List.cons_ne_nil _ _) ⟨c, he ▸ ⟨e, rfl⟩⟩)
  | @broken p r x hp hx =>
    rcases Nat.lt_or_ge p.length (String.utf8EncodeChar c).length with hlt | hle
    · have hprefix := concat_prefix_of_length_lt hc hlt
      exact hx (follows_of_begins (by simp) ⟨c, hprefix⟩)
    · have hprefix := List.prefix_of_prefix_length_le hc (List.prefix_append p (x :: r)) hle
      exact (partBytes_iff_incomplete.mp hp).no_char c hprefix
  | cutOff hp => exact (partBytes_iff_incomplete.mp hp).no_char c hc

/-- The length of a fault: none if it is cut off, else that of the longest beginning of a character
there, or one. -/
theorem FaultAt.length_spec {bs : List UInt8} {length : Option Nat} (h : FaultAt bs length) :
    (length = none ↔ Incomplete bs) ∧
      ∀ n, length = some n → IsGreatest (beginningLengths bs) n ∨
        beginningLengths bs = ∅ ∧ n = 1 := by
  cases h with
  | @unknown b r hb =>
    have hnone : ∀ q, q ≠ [] → q <+: b :: r → ¬ Begins q := by
      intro q hne hq hbegins
      obtain ⟨x, q, rfl⟩ := List.exists_cons_of_ne_nil hne
      obtain ⟨rfl, -⟩ := List.cons_prefix_cons.mp hq
      exact hb (follows_of_begins (List.cons_ne_nil _ _) (hbegins.of_isPrefix ⟨q, rfl⟩))
    refine ⟨iff_of_false nofun fun hi => ?_, fun n hn => .inr ⟨?_, (Option.some.inj hn).symm⟩⟩
    · exact hnone _ (List.cons_ne_nil _ _) List.prefix_rfl hi.begins
    · refine Set.eq_empty_iff_forall_notMem.mpr ?_
      rintro n ⟨q, hne, hq, hbegins, -⟩
      exact hnone q hne hq hbegins
  | @broken p r x hp hx =>
    have hlonger : ∀ q, q <+: p ++ x :: r → Begins q → q.length ≤ p.length := by
      intro q hq hbegins
      by_contra hlt
      have hprefix := concat_prefix_of_length_lt hq (Nat.lt_of_not_le hlt)
      exact hx (follows_of_begins (by simp) (hbegins.of_isPrefix hprefix))
    refine ⟨iff_of_false nofun fun hi => ?_, fun n hn => .inl ?_⟩
    · have hle := hlonger _ List.prefix_rfl hi.begins
      rw [List.length_append, List.length_cons] at hle
      omega
    · obtain rfl := Option.some.inj hn
      refine ⟨⟨p, hp.ne_nil, List.prefix_append _ _, ?_, rfl⟩, ?_⟩
      · exact (partBytes_iff_incomplete.mp hp).begins
      · rintro n ⟨q, -, hq, hbegins, rfl⟩
        exact hlonger q hq hbegins
  | cutOff hp => exact ⟨iff_of_true rfl (partBytes_iff_incomplete.mp hp), nofun⟩

/-- No text at the front of bytes reaches into what begins no character. -/
theorem length_le_of_isPrefix {text text' : List Char} {rest : List UInt8}
    (hrest : ∀ c, ¬ String.utf8EncodeChar c <+: rest) (h : bytes text' <+: bytes text ++ rest) :
    (bytes text').length ≤ (bytes text).length := by
  induction text generalizing text' with
  | nil =>
    cases text' with
    | nil => exact Nat.le_refl _
    | cons c text' =>
      rw [bytes_cons, bytes_nil, List.nil_append] at h
      exact absurd ((List.prefix_append _ _).trans h) (hrest c)
  | cons d text ih =>
    cases text' with
    | nil => exact Nat.zero_le _
    | cons c text' =>
      rw [bytes_cons, bytes_cons, List.append_assoc] at h
      have hd : String.utf8EncodeChar d <+: String.utf8EncodeChar d ++ (bytes text ++ rest) :=
        List.prefix_append _ _
      have hc := (List.prefix_append _ _).trans h
      obtain rfl : c = d := by
        rcases List.prefix_or_prefix_of_prefix hc hd with ⟨r, hr⟩ | ⟨r, hr⟩
        · exact (eq_of_utf8EncodeChar_append_eq hr).1
        · exact (eq_of_utf8EncodeChar_append_eq hr).1.symm
      rw [bytes_cons, bytes_cons, List.length_append, List.length_append]
      exact Nat.add_le_add_left (ih ((List.prefix_append_right_inj _).mp h)) _

/-! ### Reading -/

/-- Bytes that cannot be read are a text and a fault. -/
theorem exists_faultAt {pos : Nat} {bs : List UInt8} {fault : Fault}
    (h : decodeFrom pos bs = .error fault) :
    ∃ text rest, bs = bytes text ++ rest ∧ fault.validUpTo = pos + (bytes text).length ∧
      FaultAt rest fault.length := by
  induction hn : bs.length using Nat.strong_induction_on generalizing pos bs with
  | _ n ih =>
    subst hn
    rcases decodeFrom_cases pos bs with rfl | ⟨e, rest, he, rfl⟩ | ⟨length, hfault, hread⟩
    · cases h
    · obtain ⟨c, rfl⟩ := he.exists_char
      rw [decodeFrom_utf8EncodeChar, map_eq_error_iff] at h
      have hpos := List.length_pos_of_ne_nil (utf8EncodeChar_ne_nil c)
      have hlt : rest.length < (String.utf8EncodeChar c ++ rest).length := by
        rw [List.length_append]
        omega
      obtain ⟨text, rest', rfl, hvalid, hfault⟩ := ih _ hlt h rfl
      refine ⟨c :: text, rest', ?_, ?_, hfault⟩
      · rw [bytes_cons, List.append_assoc]
      · rw [hvalid, bytes_cons, List.length_append, Nat.add_assoc]
    · rw [hread] at h
      cases h
      exact ⟨[], bs, rfl, rfl, hfault⟩

/-- What the numbers of a fault say of the bytes that it was found in. -/
structure Fault.Describes (fault : Fault) (bs : List UInt8) : Prop where
  /-- The text in front of the fault is the longest there is. -/
  validUpTo : IsGreatest (textLengths bs) fault.validUpTo
  /-- A fault without a length is the end of the bytes within a character. -/
  cutOff : fault.length = none ↔ Incomplete (bs.drop fault.validUpTo)
  /-- Any other fault is as long as the longest beginning of a character, or a single byte. -/
  length : ∀ n, fault.length = some n →
    IsGreatest (beginningLengths (bs.drop fault.validUpTo)) n ∨
      beginningLengths (bs.drop fault.validUpTo) = ∅ ∧ n = 1

/-- A fault describes the bytes that it was found in. -/
theorem describes_of_decode {bs : List UInt8} {fault : Fault} (h : decode bs = .error fault) :
    fault.Describes bs := by
  obtain ⟨text, rest, rfl, hvalid, hfault⟩ := exists_faultAt h
  rw [Nat.zero_add] at hvalid
  have hrest : (bytes text ++ rest).drop fault.validUpTo = rest := by
    rw [hvalid, List.drop_left]
  obtain ⟨hnone, hsome⟩ := hfault.length_spec
  refine ⟨⟨⟨text, List.prefix_append _ _, hvalid.symm⟩, ?_⟩, ?_, ?_⟩
  · rintro n ⟨text', hprefix, rfl⟩
    rw [hvalid]
    exact length_le_of_isPrefix hfault.no_char hprefix
  · rw [hrest]
    exact hnone
  · rw [hrest]
    exact hsome

end RouteTemplate.Utf8
