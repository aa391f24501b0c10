import Mathlib.Data.List.TakeDrop
import Mathlib.Data.List.TakeWhile
import RouteTemplate.Proofs.Percent
import RouteTemplate.Typed.Parameter

/-!
# RouteTemplate.Proofs.SingleWord — texts that read as one word

Where an identifier is wanted, a text is read as tokens and has to be one word.  The reader passes
over more than the word: blanks around it, the mark of a raw word, a byte order mark in front.  A
text without slashes reads as one word exactly when it is that word with such things around it
(`tokens?_eq_word_iff`), so a plain identifier reads as itself
(`readIdentifierText_eq_identifier_iff`), and what else reads as a word is known
(`readIdentifierText_eq_unusable_iff`).
-/

namespace RouteTemplate

/-! ### Characters of words -/

/-- Ranges that lie apart pairwise have no character in common. -/
theorem Unicode.inRanges_eq_false_of_apart {rs ss : List (Nat × Nat)}
    (h : rs.all (fun r => ss.all fun s => r.2 < s.1 || s.2 < r.1) = true) {c : Char}
    (hc : inRanges rs c = true) : inRanges ss c = false := by
  obtain ⟨r, hr, hlow, hhigh⟩ := inRanges_eq_true_iff.mp hc
  rw [← Bool.not_eq_true, inRanges_eq_true_iff]
  rintro ⟨s, hs, hlow', hhigh'⟩
  have hapart := List.all_eq_true.mp (List.all_eq_true.mp h r hr) s hs
  rw [Bool.or_eq_true, decide_eq_true_eq, decide_eq_true_eq] at hapart
  omega

namespace Naming

theorem isIdentContinue_of_isIdentStart {c : Char} (h : isIdentStart c = true) :
    isIdentContinue c = true := by
  rw [isIdentStart, Bool.or_eq_true, beq_iff_eq] at h
  rcases h with rfl | h
  · decide +kernel
  · exact Unicode.isXidContinue_of_isXidStart h

/-- Characters that signs, brackets and quotes are made of. -/
def punctuation : List Char := Typed.signs ++ ['"', '(', ')', '[', ']', '\x7b', '\x7d']

theorem notMem_punctuation {c : Char} (h : isIdentContinue c = true) : c ∉ punctuation := by
  have hall : punctuation.all (fun d => !isIdentContinue d) = true := by decide +kernel
  intro hc
  have hout := List.all_eq_true.mp hall c hc
  rw [h] at hout
  cases hout

theorem isDigit_eq_false_of_isIdentStart {c : Char} (h : isIdentStart c = true) :
    c.isDigit = false := by
  rw [isIdentStart, Bool.or_eq_true, beq_iff_eq] at h
  rcases h with rfl | h
  · decide
  · have hout : Unicode.inRanges [(0x30, 0x39)] c = false :=
      Unicode.inRanges_eq_false_of_apart (by decide +kernel) h
    rw [← Bool.not_eq_true, Unicode.inRanges_eq_true_iff] at hout
    rw [← Bool.not_eq_true, Char.isDigit, Bool.and_eq_true, decide_eq_true_eq, decide_eq_true_eq]
    rintro ⟨hlow, hhigh⟩
    exact hout ⟨(0x30, 0x39), List.mem_singleton_self _, UInt32.le_iff_toNat_le.mp hlow,
      UInt32.le_iff_toNat_le.mp hhigh⟩

end Naming

namespace Typed

open Naming (isIdentStart isIdentContinue isWord)

/-- No character of a word is a blank. -/
theorem isBlank_eq_false_of_isIdentContinue {c : Char} (h : isIdentContinue c = true) :
    isBlank c = false := by
  have hranges : Unicode.inRanges (Unicode.xidStartRanges ++ Unicode.xidContinueOnlyRanges) c =
      true := by
    rw [Unicode.inRanges, List.any_append]
    exact h
  have hout : Unicode.inRanges (Unicode.whiteSpaceRanges ++ [(0x200E, 0x200F)]) c = false :=
    Unicode.inRanges_eq_false_of_apart (by decide +kernel) hranges
  rw [Unicode.inRanges, List.any_append, Bool.or_eq_false_iff] at hout
  obtain ⟨hspace, hmarks⟩ := hout
  have hwhite : Unicode.isWhiteSpace c = false := hspace
  have hlow : c.toNat ≠ 0x200E := by
    intro hc
    simp [hc] at hmarks
  have hhigh : c.toNat ≠ 0x200F := by
    intro hc
    simp [hc] at hmarks
  rw [isBlank, hwhite, beq_false_of_ne hlow, beq_false_of_ne hhigh]
  rfl

/-! ### Blanks -/

theorem afterComment?_of_notMem {cs : List Char} (h : '/' ∉ cs) : afterComment? cs = none := by
  unfold afterComment?
  split
  iterate 9 exact absurd List.mem_cons_self h
  rfl

theorem docComment?_of_notMem {cs : List Char} (h : '/' ∉ cs) : docComment? cs = none := by
  unfold docComment?
  split
  iterate 4 exact absurd List.mem_cons_self h
  rfl

theorem skipBlanks_of_notMem {fuel : Nat} {cs : List Char} (h : '/' ∉ cs) (hf : cs.length ≤ fuel) :
    skipBlanks fuel cs = cs.dropWhile isBlank := by
  induction fuel generalizing cs with
  | zero =>
    rw [List.eq_nil_of_length_eq_zero (Nat.le_zero.mp hf)]
    rfl
  | succ fuel ih =>
    cases cs with
    | nil => rfl
    | cons c cs =>
      have hcs : '/' ∉ cs := fun hc => h (List.mem_cons_of_mem c hc)
      simp only [skipBlanks, afterComment?_of_notMem h, List.dropWhile_cons,
        ih hcs (Nat.le_of_succ_le_succ hf)]

/-! ### One step of reading -/

/-- One step: the open groups, the tokens of the innermost one and the text to be read, before the
step and after it. -/
inductive Advance : List (Delimiter × List Token) → List Token → List Char →
    List (Delimiter × List Token) → List Token → List Char → Prop where
  | comment {outer current cs text inner rest} :
      docComment? (skipBlanks cs.length cs) = some (text, inner, rest) →
      Advance outer current cs outer ((docTokens text inner).reverse ++ current) rest
  | opens {outer current cs} (d : Delimiter) (rest : List Char) :
      Advance outer current cs ((d, current) :: outer) [] rest
  | closes {d before outer current cs} (rest : List Char) :
      Advance ((d, before) :: outer) current cs outer (.group d current.reverse :: before) rest
  | leaf {outer current cs t rest} : leaf? (skipBlanks cs.length cs) = some (t, rest) →
      Advance outer current cs outer (t :: current) rest

/-- Reading ends with nothing but blanks outside all groups, or goes on by one step. -/
theorem advance_of_tokensFrom? {fuel : Nat} {outer : List (Delimiter × List Token)}
    {current ts : List Token} {cs : List Char}
    (h : tokensFrom? (fuel + 1) outer current cs = some ts) :
    (skipBlanks cs.length cs = [] ∧ outer = [] ∧ ts = current.reverse) ∨
      ∃ outer' current' rest, Advance outer current cs outer' current' rest ∧
        tokensFrom? fuel outer' current' rest = some ts := by
  simp only [tokensFrom?] at h
  split at h
  · rename_i text inner rest hdoc
    have hcomment := (Option.filter_eq_some_iff.mp hdoc).1
    exact .inr ⟨_, _, rest, .comment hcomment, h⟩
  · split at h
    · rename_i hnil
      split at h
      · rename_i houter
        exact .inl ⟨hnil, List.isEmpty_iff.mp houter, (Option.some.inj h).symm⟩
      · cases h
    · rename_i c rest hcons
      split at h
      · rename_i d _
        exact .inr ⟨_, _, rest, .opens d rest, h⟩
      · split at h
        · split at h
          · rename_i d' before outer'
            split at h
            · rename_i hd
              subst hd
              exact .inr ⟨_, _, rest, .closes rest, h⟩
            · cases h
          · cases h
        · split at h
          · rename_i t rest hleaf
            rw [← hcons] at hleaf
            exact .inr ⟨_, _, rest, .leaf hleaf, h⟩
          · cases h

/-- Tokens begin with those that are read at the outermost level, and with the group that is open
there. -/
def BeginWith (outer : List (Delimiter × List Token)) (current ts : List Token) : Prop :=
  match outer.getLast? with
  | some (d, before) => ∃ body, before.reverse ++ [.group d body] <+: ts
  | none => current.reverse <+: ts

/-- A step takes nothing away at the outermost level. -/
theorem BeginWith.of_advance {outer outer' : List (Delimiter × List Token)}
    {current current' ts : List Token} {cs rest : List Char}
    (h : Advance outer current cs outer' current' rest) (hts : BeginWith outer' current' ts) :
    BeginWith outer current ts := by
  cases h with
  | @comment _ _ _ text inner _ _ =>
    cases hl : outer.getLast? with
    | none =>
      simp only [BeginWith, hl, List.reverse_append, List.reverse_reverse] at hts ⊢
      exact (List.prefix_append _ _).trans hts
    | some o => simpa only [BeginWith, hl] using hts
  | opens d rest =>
    cases outer with
    | nil =>
      obtain ⟨body, hbody⟩ := hts
      exact (List.prefix_append _ _).trans hbody
    | cons o outer =>
      simp only [BeginWith, List.getLast?_cons_cons] at hts ⊢
      exact hts
  | closes rest =>
    cases outer' with
    | nil =>
      refine ⟨current.reverse, ?_⟩
      simp only [BeginWith, List.getLast?_nil, List.reverse_cons] at hts
      exact hts
    | cons o outer =>
      simp only [BeginWith, List.getLast?_cons_cons] at hts ⊢
      exact hts
  | @leaf _ _ _ t _ _ =>
    cases hl : outer.getLast? with
    | none =>
      simp only [BeginWith, hl, List.reverse_cons] at hts ⊢
      exact (List.prefix_append _ _).trans hts
    | some o => simpa only [BeginWith, hl] using hts

theorem beginWith_of_tokensFrom? {fuel : Nat} {outer : List (Delimiter × List Token)}
    {current ts : List Token} {cs : List Char} (h : tokensFrom? fuel outer current cs = some ts) :
    BeginWith outer current ts := by
  induction fuel generalizing outer current cs with
  | zero => cases h
  | succ fuel ih =>
    rcases advance_of_tokensFrom? h with ⟨-, rfl, rfl⟩ | ⟨outer', current', rest, hstep, h⟩
    · exact List.prefix_rfl
    · exact .of_advance hstep (ih h)

/-! ### Words -/

theorem spanWord?_eq_some {cs w rest : List Char} (h : spanWord? cs = some (w, rest)) :
    cs = w ++ rest ∧ isWord w = true := by
  cases cs with
  | nil => cases h
  | cons c cs =>
    rw [spanWord?, List.span_eq_takeWhile_dropWhile] at h
    split at h
    · rename_i hc
      cases h
      refine ⟨?_, ?_⟩
      · rw [List.cons_append, List.takeWhile_append_dropWhile]
      · rw [isWord, hc, Bool.true_and, List.all_eq_true]
        exact fun d hd => List.mem_takeWhile_imp hd
    · cases h

theorem spanWord?_append {w rest : List Char} (hw : isWord w = true)
    (hrest : ∀ c ∈ rest.head?, isIdentContinue c = false) :
    spanWord? (w ++ rest) = some (w, rest) := by
  cases w with
  | nil => cases hw
  | cons c w =>
    rw [isWord, Bool.and_eq_true, List.all_eq_true] at hw
    obtain ⟨hc, hw⟩ := hw
    rw [List.cons_append, spanWord?, if_pos hc, List.span_eq_takeWhile_dropWhile,
      List.takeWhile_append_of_pos hw, List.dropWhile_append_of_pos hw]
    cases rest with
    | nil => simp
    | cons d rest =>
      have hd := hrest d rfl
      simp [hd]

theorem isIdentContinue_of_mem {w : List Char} (hw : isWord w = true) {c : Char} (h : c ∈ w) :
    isIdentContinue c = true := by
  cases w with
  | nil => cases hw
  | cons d w =>
    rw [isWord, Bool.and_eq_true, List.all_eq_true] at hw
    rcases List.mem_cons.mp h with rfl | h
    · exact Naming.isIdentContinue_of_isIdentStart hw.1
    · exact hw.2 c h

theorem word?_eq_some {cs w rest : List Char} {raw : Bool} (h : word? cs = some (w, raw, rest)) :
    cs = wordText w raw ++ rest ∧ isWord w = true ∧ (raw = true → w ∉ neverRaw) := by
  unfold word? at h
  split at h
  · rename_i cs
    split at h
    · rename_i w' rest' hspan
      split at h
      · cases h
      · rename_i hraw
        cases h
        obtain ⟨rfl, hw⟩ := spanWord?_eq_some hspan
        refine ⟨rfl, hw, fun _ hmem => hraw (List.contains_iff_mem.mpr hmem)⟩
    · cases h
  · obtain ⟨⟨w', rest'⟩, hspan, heq⟩ := Option.map_eq_some_iff.mp h
    cases heq
    obtain ⟨rfl, hw⟩ := spanWord?_eq_some hspan
    exact ⟨rfl, hw, fun hraw => by cases hraw⟩

theorem literalToken?_eq_some {cs rest : List Char} {t : Token}
    (h : literalToken? cs = some (t, rest)) : ∃ source value, t = .literal source value := by
  simp only [literalToken?] at h
  split at h
  · cases h
    exact ⟨_, _, rfl⟩
  · obtain ⟨behind, -, heq⟩ := Option.map_eq_some_iff.mp h
    cases heq
    exact ⟨_, _, rfl⟩

theorem signToken?_eq_some {cs rest : List Char} {t : Token}
    (h : signToken? cs = some (t, rest)) : ∃ c joint, t = .sign c joint := by
  simp only [signToken?] at h
  split at h
  · cases h
  · split at h
    · cases h
    · split at h
      · cases h
      · split at h
        · cases h
          exact ⟨_, _, rfl⟩
        · cases h
      · cases h
        exact ⟨_, _, rfl⟩
  · cases h
    exact ⟨_, _, rfl⟩

theorem placeholderToken?_eq_some {cs rest : List Char} {t : Token}
    (h : placeholderToken? cs = some (t, rest)) : t = .literal placeholder none := by
  rw [placeholderToken?] at h
  split at h
  · cases h
    rfl
  · cases h

/-- A token that is a word was read as one. -/
theorem word?_of_leaf? {cs w rest : List Char} {raw : Bool}
    (h : leaf? cs = some (.word w raw, rest)) : word? cs = some (w, raw, rest) := by
  rw [leaf?] at h
  cases hliteral : literalToken? cs with
  | some p =>
    rw [hliteral] at h
    cases h
    obtain ⟨_, _, ht⟩ := literalToken?_eq_some hliteral
    cases ht
  | none =>
    rw [hliteral, Option.orElse_none] at h
    cases hsign : signToken? cs with
    | some p =>
      rw [hsign] at h
      cases h
      obtain ⟨_, _, ht⟩ := signToken?_eq_some hsign
      cases ht
    | none =>
      rw [hsign, Option.orElse_none] at h
      cases hword : wordToken? cs with
      | some p =>
        rw [hword] at h
        cases h
        rw [wordToken?] at hword
        split at hword
        · cases hword
        · obtain ⟨⟨w', raw', rest'⟩, hread, heq⟩ := Option.map_eq_some_iff.mp hword
          cases heq
          exact hread
      | none =>
        rw [hword, Option.orElse_none] at h
        cases placeholderToken?_eq_some h

/-! ### A word alone -/

/-- A text is a word with blanks around it; a byte order mark may stand in front, and the mark of a
raw word before the word. -/
def IsSpaced (text w : List Char) (raw : Bool) : Prop :=
  isWord w = true ∧ (raw = true → w ∉ neverRaw) ∧
    ∃ mark before after, (mark = [] ∨ mark = [byteOrderMark]) ∧
      (∀ c ∈ before, isBlank c = true) ∧ (∀ c ∈ after, isBlank c = true) ∧
      text = mark ++ (before ++ (wordText w raw ++ after))

/-- Outside all groups a text without slashes ends, opens a group, or goes on with a token behind
its blanks. -/
theorem tokensFrom?_cases {fuel : Nat} {current ts : List Token} {cs : List Char} (h : '/' ∉ cs)
    (hts : tokensFrom? fuel [] current cs = some ts) :
    (cs.dropWhile isBlank = [] ∧ ts = current.reverse) ∨
      (∃ d body, current.reverse ++ [.group d body] <+: ts) ∨
      ∃ fuel' t rest, leaf? (cs.dropWhile isBlank) = some (t, rest) ∧
        tokensFrom? fuel' [] (t :: current) rest = some ts := by
  cases fuel with
  | zero => cases hts
  | succ fuel =>
    have hskip := skipBlanks_of_notMem h (Nat.le_refl _)
    rcases advance_of_tokensFrom? hts with ⟨hnil, -, rfl⟩ | ⟨outer', current', rest, hstep, hts⟩
    · exact .inl ⟨hskip ▸ hnil, rfl⟩
    · have hbegin := beginWith_of_tokensFrom? hts
      cases hstep with
      | comment hdoc =>
        rw [hskip, docComment?_of_notMem fun hc => h (List.dropWhile_subset _ hc)] at hdoc
        cases hdoc
      | opens d rest => exact .inr (.inl ⟨d, hbegin⟩)
      | leaf hleaf => exact .inr (.inr ⟨fuel, _, rest, hskip ▸ hleaf, hts⟩)

/-- A text of which the tokens are one word is that word among blanks. -/
theorem eq_of_tokensFrom?_word {fuel : Nat} {cs w : List Char} {raw : Bool} (h : '/' ∉ cs)
    (hts : tokensFrom? fuel [] [] cs = some [.word w raw]) :
    isWord w = true ∧ (raw = true → w ∉ neverRaw) ∧
      ∃ before after, (∀ c ∈ before, isBlank c = true) ∧ (∀ c ∈ after, isBlank c = true) ∧
        cs = before ++ (wordText w raw ++ after) := by
  rcases tokensFrom?_cases h hts with ⟨-, heq⟩ | ⟨d, body, hgroup⟩ | ⟨fuel', t, rest, hleaf, hts⟩
  · cases heq
  · exact absurd hgroup (by simp)
  · have ht : [t] <+: [.word w raw] := beginWith_of_tokensFrom? hts
    obtain rfl : t = .word w raw := by simpa using ht
    obtain ⟨hcs, hw, hraw⟩ := word?_eq_some (word?_of_leaf? hleaf)
    have hrest : '/' ∉ rest := by
      intro hc
      refine h (List.dropWhile_subset isBlank ?_)
      rw [hcs]
      exact List.mem_append_right _ hc
    rcases tokensFrom?_cases hrest hts with ⟨hnil, -⟩ | ⟨d, body, hgroup⟩ | ⟨_, t', _, -, hts⟩
    · refine ⟨hw, hraw, cs.takeWhile isBlank, rest, fun c hc => ?_, fun c hc => ?_, ?_⟩
      · exact List.mem_takeWhile_imp hc
      · exact List.dropWhile_eq_nil_iff.mp hnil c hc
      · rw [← hcs, List.takeWhile_append_dropWhile]
    · exact absurd hgroup.length_le (by simp)
    · have hmore : [.word w raw, t'] <+: [.word w raw] := beginWith_of_tokensFrom? hts
      exact absurd hmore.length_le (by simp)

/-! ### Reading a word -/

theorem rawString?_of_notMem {style : QuoteStyle} {cs : List Char} (h : '"' ∉ cs) :
    rawString? style cs = none := by
  rw [rawString?, List.span_eq_takeWhile_dropWhile]
  dsimp only
  split
  · rename_i body hrest
    exact absurd (List.dropWhile_subset _ (hrest ▸ List.mem_cons_self)) h
  · rfl

/-- Without quotes there is no literal in quotes. -/
theorem quotedLiteral?_of_notMem {cs : List Char} (hdouble : '"' ∉ cs) (hsingle : '\'' ∉ cs) :
    quotedLiteral? cs = none := by
  unfold quotedLiteral?
  dsimp only
  rw [Option.map_eq_none_iff]
  split
  · exact absurd List.mem_cons_self hdouble
  · exact absurd (List.mem_cons_of_mem _ List.mem_cons_self) hdouble
  · exact absurd (List.mem_cons_of_mem _ List.mem_cons_self) hdouble
  · rename_i body
    have hbody : '"' ∉ body :=
      fun hc => hdouble (List.mem_cons_of_mem _ (List.mem_cons_of_mem _ hc))
    rw [rawString?_of_notMem hbody, Option.map_none]
  · rename_i body
    have hbody : '"' ∉ body :=
      fun hc => hdouble (List.mem_cons_of_mem _ (List.mem_cons_of_mem _ hc))
    rw [rawString?_of_notMem hbody, Option.map_none]
  · rename_i body
    have hbody : '"' ∉ body := fun hc => hdouble (List.mem_cons_of_mem _ hc)
    rw [rawString?_of_notMem hbody, Option.map_none]
  · exact absurd (List.mem_cons_of_mem _ List.mem_cons_self) hsingle
  · exact absurd List.mem_cons_self hsingle
  · rfl

theorem isDigit_of_hexValue?_lt {c : Char} {d : Nat} (h : Percent.hexValue? c = some d)
    (hd : d < 10) : c.isDigit = true := by
  rw [Percent.hexValue?] at h
  split at h
  · rename_i hc
    rw [Char.isDigit, Bool.and_eq_true, decide_eq_true_eq, decide_eq_true_eq]
    exact hc
  · split at h
    · cases h
      omega
    · split at h
      · cases h
        omega
      · cases h

/-- No number begins with a character that begins a word. -/
theorem afterNumber?_of_isIdentStart {c : Char} (h : isIdentStart c = true) (cs : List Char) :
    afterNumber? (c :: cs) = none := by
  have hdigit := Naming.isDigit_eq_false_of_isIdentStart h
  have hfloat : afterFloatDigits? (c :: cs) = none := by
    rw [afterFloatDigits?, hdigit]
    rfl
  have hbase : splitBase (c :: cs) = (10, c :: cs) := by
    have hzero : c ≠ '0' := by
      rintro rfl
      exact absurd hdigit (by decide)
    unfold splitBase
    split
    iterate 3
      rename_i heq
      exact absurd (List.cons.inj heq).1 hzero
    rfl
  have hdigits : afterDigits? 10 true (c :: cs) = none := by
    rw [afterDigits?]
    split
    · rename_i d hd
      have hlarge : ¬ d < 10 := by
        intro hlt
        rw [isDigit_of_hexValue?_lt hd hlt] at hdigit
        cases hdigit
      simp [hlarge]
    · simp
  simp only [afterNumber?, hfloat, hbase, hdigits, Option.bind_none]

theorem signToken?_of_notMem {c : Char} (h : c ∉ signs) (cs : List Char) :
    signToken? (c :: cs) = none := by
  have hsign : sign? (c :: cs) = none := by
    unfold sign?
    split
    · rfl
    · rfl
    · rename_i d rest _ _ heq
      cases heq
      exact if_neg h
    · rfl
  rw [signToken?, hsign]

theorem Delimiter.ofOpening?_of_notMem {c : Char} (h : c ∉ Naming.punctuation) :
    ofOpening? c = none := by
  rw [ofOpening?, List.find?_eq_none]
  intro d _ hd
  rw [beq_iff_eq] at hd
  subst hd
  cases d <;> exact h (by decide)

theorem Delimiter.ofClosing?_of_notMem {c : Char} (h : c ∉ Naming.punctuation) :
    ofClosing? c = none := by
  rw [ofClosing?, List.find?_eq_none]
  intro d _ hd
  rw [beq_iff_eq] at hd
  subst hd
  cases d <;> exact h (by decide)

/-- A word, raw or not, begins as words do. -/
theorem exists_cons_wordText {w : List Char} (hw : isWord w = true) (raw : Bool)
    (after : List Char) : ∃ c cs, isIdentStart c = true ∧ wordText w raw ++ after = c :: cs := by
  cases raw with
  | false =>
    cases w with
    | nil => cases hw
    | cons c w =>
      rw [isWord, Bool.and_eq_true] at hw
      exact ⟨c, w ++ after, hw.1, rfl⟩
  | true => exact ⟨'r', '#' :: (w ++ after), by decide +kernel, rfl⟩

section Spaced

variable {w after : List Char} (hw : isWord w = true) (hafter : ∀ c ∈ after, isBlank c = true)

include hw hafter

/-- Neither a word nor blanks hold punctuation. -/
theorem notMem_of_mem_punctuation {d : Char} (hd : d ∈ Naming.punctuation) : d ∉ w ++ after := by
  intro hmem
  rcases List.mem_append.mp hmem with hmem | hmem
  · exact Naming.notMem_punctuation (isIdentContinue_of_mem hw hmem) hd
  · have hall : Naming.punctuation.all (fun d => !isBlank d) = true := by decide +kernel
    have hout := List.all_eq_true.mp hall d hd
    rw [hafter d hmem] at hout
    cases hout

theorem notMem_wordText {d : Char} (hd : d ∈ Naming.punctuation) (hne : d ≠ '#') (raw : Bool) :
    d ∉ wordText w raw ++ after := by
  have hmem := notMem_of_mem_punctuation hw hafter hd
  cases raw with
  | false => exact hmem
  | true =>
    have hr : d ≠ 'r' := by
      rintro rfl
      exact absurd hd (by decide)
    intro h
    rcases List.mem_cons.mp h with h | h
    · exact hr h
    · rcases List.mem_cons.mp h with h | h
      · exact hne h
      · exact hmem h

theorem literalPrefixes_any_wordText (raw : Bool) :
    literalPrefixes.any (·.isPrefixOf (wordText w raw ++ after)) = false := by
  -- each of them holds a quote, or a number sign that is not the one of a raw word
  have hall : literalPrefixes.all (fun p =>
      p.contains '"' || p.contains '\'' || (p.drop 2).contains '#') = true := by decide
  have hdouble : '"' ∉ wordText w raw ++ after :=
    notMem_wordText hw hafter (by decide) (by decide) raw
  have hsingle : '\'' ∉ wordText w raw ++ after :=
    notMem_wordText hw hafter (by decide) (by decide) raw
  have hsharp : '#' ∉ w ++ after := notMem_of_mem_punctuation hw hafter (by decide)
  have hdrop : '#' ∉ (wordText w raw ++ after).drop 2 := by
    cases raw with
    | false => exact fun h => hsharp (List.mem_of_mem_drop h)
    | true => exact hsharp
  rw [← Bool.not_eq_true, List.any_eq_true]
  rintro ⟨p, hp, hbegins⟩
  rw [List.isPrefixOf_iff_prefix] at hbegins
  have hcases := List.all_eq_true.mp hall p hp
  rw [Bool.or_eq_true, Bool.or_eq_true, List.contains_iff_mem, List.contains_iff_mem,
    List.contains_iff_mem] at hcases
  rcases hcases with (h | h) | h
  · exact hdouble (hbegins.subset h)
  · exact hsingle (hbegins.subset h)
  · obtain ⟨rest, hrest⟩ := hbegins
    rw [← hrest, List.drop_append] at hdrop
    exact hdrop (List.mem_append_left _ h)

theorem word?_wordText {raw : Bool} (hraw : raw = true → w ∉ neverRaw) :
    word? (wordText w raw ++ after) = some (w, raw, after) := by
  have hspan : spanWord? (w ++ after) = some (w, after) := by
    refine spanWord?_append hw fun c hc => ?_
    rw [← Bool.not_eq_true]
    intro hcontinue
    have hblank := hafter c (List.mem_of_mem_head? hc)
    rw [isBlank_eq_false_of_isIdentContinue hcontinue] at hblank
    cases hblank
  cases raw with
  | true =>
    have hfree : neverRaw.contains w = false := by
      rw [← Bool.not_eq_true, List.contains_iff_mem]
      exact hraw rfl
    simp only [wordText, if_true, List.cons_append, word?, hspan, hfree, Bool.false_eq_true,
      if_false]
  | false =>
    have hsharp : '#' ∉ w ++ after := notMem_of_mem_punctuation hw hafter (by decide)
    simp only [wordText, Bool.false_eq_true, if_false]
    unfold word?
    split
    · rename_i cs heq
      rw [heq] at hsharp
      exact absurd (List.mem_cons_of_mem _ List.mem_cons_self) hsharp
    · rw [hspan, Option.map_some]

/-- A word that blanks follow is read as a word. -/
theorem leaf?_wordText {raw : Bool} (hraw : raw = true → w ∉ neverRaw) :
    leaf? (wordText w raw ++ after) = some (.word w raw, after) := by
  have hdouble : '"' ∉ wordText w raw ++ after :=
    notMem_wordText hw hafter (by decide) (by decide) raw
  have hsingle : '\'' ∉ wordText w raw ++ after :=
    notMem_wordText hw hafter (by decide) (by decide) raw
  obtain ⟨c, cs, hc, hcons⟩ := exists_cons_wordText hw raw after
  have hsigns : c ∉ signs := fun h => Naming.notMem_punctuation
    (Naming.isIdentContinue_of_isIdentStart hc) (List.mem_append_left _ h)
  have hliteral : literalToken? (wordText w raw ++ after) = none := by
    have hnumber : afterNumber? (wordText w raw ++ after) = none := by
      rw [hcons]
      exact afterNumber?_of_isIdentStart hc cs
    simp only [literalToken?, quotedLiteral?_of_notMem hdouble hsingle, hnumber, Option.map_none]
  have hsign : signToken? (wordText w raw ++ after) = none := by
    rw [hcons]
    exact signToken?_of_notMem hsigns cs
  have hword : wordToken? (wordText w raw ++ after) = some (.word w raw, after) := by
    rw [wordToken?, literalPrefixes_any_wordText hw hafter raw, if_neg Bool.false_ne_true,
      word?_wordText hw hafter hraw, Option.map_some]
  rw [leaf?, hliteral, Option.orElse_none, hsign, Option.orElse_none, hword, Option.orElse_some]

end Spaced

theorem tokensFrom?_blanks {fuel : Nat} {current : List Token} {cs : List Char}
    (h : ∀ c ∈ cs, isBlank c = true) :
    tokensFrom? (fuel + 1) [] current cs = some current.reverse := by
  have hslash : '/' ∉ cs := by
    intro hc
    exact absurd (h '/' hc) (by decide)
  have hskip : skipBlanks cs.length cs = [] := by
    rw [skipBlanks_of_notMem hslash (Nat.le_refl _)]
    exact List.dropWhile_eq_nil_iff.mpr h
  simp only [tokensFrom?, hskip, docComment?, Option.filter_none, List.isEmpty_nil, if_true]

theorem tokensFrom?_spaced (fuel : Nat) {w before after : List Char} {raw : Bool}
    (hw : isWord w = true) (hraw : raw = true → w ∉ neverRaw)
    (hbefore : ∀ c ∈ before, isBlank c = true) (hafter : ∀ c ∈ after, isBlank c = true) :
    tokensFrom? (fuel + 2) [] [] (before ++ (wordText w raw ++ after)) = some [.word w raw] := by
  obtain ⟨c, cs, hc, hcons⟩ := exists_cons_wordText hw raw after
  have hcontinue := Naming.isIdentContinue_of_isIdentStart hc
  have hslash : '/' ∉ before ++ (wordText w raw ++ after) := by
    intro h
    rcases List.mem_append.mp h with h | h
    · exact absurd (hbefore '/' h) (by decide)
    · exact notMem_wordText hw hafter (by decide) (by decide) raw h
  have hskip : skipBlanks (before ++ (wordText w raw ++ after)).length
      (before ++ (wordText w raw ++ after)) = wordText w raw ++ after := by
    rw [skipBlanks_of_notMem hslash (Nat.le_refl _), List.dropWhile_append_of_pos hbefore, hcons,
      List.dropWhile_cons_of_neg]
    rw [isBlank_eq_false_of_isIdentContinue hcontinue]
    exact Bool.false_ne_true
  have hdoc : docComment? (c :: cs) = none := by
    rw [← hcons]
    exact docComment?_of_notMem fun h => hslash (List.mem_append_right _ h)
  have hpunctuation := Naming.notMem_punctuation hcontinue
  have hopened : opened? (c :: cs) = none := by
    rw [opened?, Delimiter.ofOpening?_of_notMem hpunctuation, ite_self]
  have hclosing := Delimiter.ofClosing?_of_notMem hpunctuation
  have hleaf := leaf?_wordText hw hafter hraw
  rw [hcons] at hskip hleaf
  rw [tokensFrom?]
  simp only [hcons, hskip, hdoc, Option.filter_none, hopened, hclosing, hleaf]
  exact tokensFrom?_blanks hafter

/-- **Texts that read as one word.**  A text without slashes reads as one word exactly when it is
that word with blanks around it, perhaps a byte order mark in front, and the mark of a raw word
before a word that may be raw. -/
theorem tokens?_eq_word_iff {text w : List Char} {raw : Bool} (h : '/' ∉ text) :
    tokens? text = some [.word w raw] ↔ IsSpaced text w raw := by
  constructor
  · intro hts
    rw [tokens?] at hts
    by_cases hmark : text.head? = some byteOrderMark
    · obtain ⟨cs, rfl⟩ := List.head?_eq_some_iff.mp hmark
      rw [if_pos hmark] at hts
      have hcs : '/' ∉ cs := fun hc => h (List.mem_cons_of_mem _ hc)
      obtain ⟨hw, hraw, before, after, hbefore, hafter, rfl⟩ := eq_of_tokensFrom?_word hcs hts
      exact ⟨hw, hraw, [byteOrderMark], before, after, .inr rfl, hbefore, hafter, rfl⟩
    · rw [if_neg hmark] at hts
      obtain ⟨hw, hraw, before, after, hbefore, hafter, rfl⟩ := eq_of_tokensFrom?_word h hts
      exact ⟨hw, hraw, [], before, after, .inl rfl, hbefore, hafter, rfl⟩
  · rintro ⟨hw, hraw, mark, before, after, hmark, hbefore, hafter, rfl⟩
    have hne : (before ++ (wordText w raw ++ after)).length ≠ 0 := by
      obtain ⟨c, cs, -, hcons⟩ := exists_cons_wordText hw raw after
      simp [hcons]
    obtain ⟨n, hn⟩ := Nat.exists_eq_succ_of_ne_zero hne
    have hread := tokensFrom?_spaced n hw hraw hbefore hafter
    rcases hmark with rfl | rfl
    · have hhead : (before ++ (wordText w raw ++ after)).head? ≠ some byteOrderMark := by
        intro hhead
        cases before with
        | nil =>
          obtain ⟨c, cs, hc, hcons⟩ := exists_cons_wordText hw raw after
          rw [List.nil_append, hcons, List.head?_cons, Option.some.injEq] at hhead
          rw [hhead] at hc
          exact absurd hc (by decide +kernel)
        | cons b before =>
          rw [List.cons_append, List.head?_cons, Option.some.injEq] at hhead
          have hb := hbefore b List.mem_cons_self
          rw [hhead] at hb
          exact absurd hb (by decide)
      rw [List.nil_append, tokens?, if_neg hhead, hn]
      exact hread
    · rw [List.singleton_append, tokens?, if_pos (List.head?_cons), List.drop_one,
        List.tail_cons, hn]
      exact hread

/-! ### Where an identifier is wanted -/

theorem isSpaced_self {text : List Char} (h : isWord text = true) : IsSpaced text text false :=
  ⟨h, fun hraw => absurd hraw Bool.false_ne_true, [], [], [], .inl rfl,
    fun _ hc => absurd hc List.not_mem_nil, fun _ hc => absurd hc List.not_mem_nil,
    (List.append_nil text).symm⟩

theorem slash_notMem_of_isWord {text : List Char} (h : isWord text = true) : '/' ∉ text :=
  fun hc => Naming.notMem_punctuation (isIdentContinue_of_mem h hc) (by decide)

theorem tokens?_of_isWord {text : List Char} (h : isWord text = true) :
    tokens? text = some [.word text false] :=
  (tokens?_eq_word_iff (slash_notMem_of_isWord h)).mpr (isSpaced_self h)

/-- The texts that are taken for identifiers are the identifiers. -/
theorem readIdentifierText_eq_identifier_iff {text : List Char} :
    readIdentifierText text = .identifier ↔ Naming.isIdentifier text = true := by
  constructor
  · intro h
    rw [readIdentifierText] at h
    split at h
    · rename_i w raw hts
      split at h
      · cases h
      · rename_i hfree
        split at h
        · rename_i hword
          rw [tokens?_of_isWord hword] at hts
          cases hts
          rw [Naming.isIdentifier, hword]
          simpa using hfree
        · cases h
    · cases h
  · intro h
    rw [Naming.isIdentifier, Bool.and_eq_true, Bool.not_eq_eq_eq_not, Bool.not_true] at h
    obtain ⟨hword, hfree⟩ := h
    simp only [readIdentifierText, tokens?_of_isWord hword, hword, hfree, Bool.and_false,
      Bool.false_eq_true, if_false, if_true]

/-- A text that is a word among other things, where the word alone could be an identifier. -/
def IsUnusable (text : List Char) : Prop :=
  ∃ w raw, IsSpaced text w raw ∧ (raw = false → Naming.isReserved w = false) ∧ text ≠ w

/-- What is taken for an identifier and is none is a free word with something around it. -/
theorem readIdentifierText_eq_unusable_iff {text : List Char} (h : '/' ∉ text) :
    readIdentifierText text = .unusable ↔ IsUnusable text := by
  constructor
  · intro hread
    rw [readIdentifierText] at hread
    split at hread
    · rename_i w raw hts
      split at hread
      · cases hread
      · rename_i hfree
        split at hread
        · cases hread
        · rename_i hword
          have hspaced := (tokens?_eq_word_iff h).mp hts
          refine ⟨w, raw, hspaced, ?_, ?_⟩
          · rintro rfl
            simpa using hfree
          · rintro rfl
            exact hword hspaced.1
    · cases hread
  · rintro ⟨w, raw, hspaced, hfree, hne⟩
    have hts := (tokens?_eq_word_iff h).mpr hspaced
    have hword : isWord text ≠ true := by
      intro hword
      rw [tokens?_of_isWord hword] at hts
      cases hts
      exact hne rfl
    have hreserved : ¬ (!raw && Naming.isReserved w) = true := by
      cases raw with
      | true => exact Bool.false_ne_true
      | false => simp [hfree rfl]
    simp only [readIdentifierText, hts, if_neg hreserved, if_neg hword]

end Typed

end RouteTemplate
