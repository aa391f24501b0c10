import RouteTemplate.Naming.Snake
import RouteTemplate.Proofs.Utf8

/-!
# RouteTemplate.Proofs.SnakeCase — characters of a name in snake case

The words of a name hold characters of the name only, and lower case makes a slash of nothing else.
So a name without slashes has none in snake case either (`Naming.slash_notMem_snakeCase`).
-/

namespace RouteTemplate

namespace Unicode

theorem eq_slash_of_ofNat {n : Nat} (h : Char.ofNat n = '/') : n = 0x2F := by
  by_cases hvalid : n.isValidChar
  · rw [← Utf8.toNat_charOfNat hvalid, h]
    rfl
  · rw [Char.ofNat, dif_neg hvalid] at h
    cases h

/-- The characters that a case mapping makes of another character are no slashes. -/
theorem slash_notMem_mapCase {runs : List CaseRun} {expansions : List (Nat × List Nat)}
    (hexpansions : expansions.all (fun e => !e.2.contains 0x2F) = true)
    (hruns : runs.all (fun r => 0x2F < r.first + r.offset || r.last + r.offset < 0x2F) = true)
    {c : Char} (hc : c ≠ '/') : '/' ∉ mapCase runs expansions c := by
  unfold mapCase
  split
  · rename_i e he
    intro hmem
    obtain ⟨n, hn, hslash⟩ := List.mem_map.mp hmem
    have hout := List.all_eq_true.mp hexpansions e (List.mem_of_find?_eq_some he)
    rw [eq_slash_of_ofNat hslash] at hn
    rw [List.contains_iff_mem.mpr hn] at hout
    cases hout
  · split
    · rename_i r hr
      have hapart := List.all_eq_true.mp hruns r (List.mem_of_find?_eq_some hr)
      have hcovers := List.find?_some hr
      simp only [CaseRun.covers, Bool.and_eq_true, decide_eq_true_eq] at hcovers
      rw [Bool.or_eq_true, decide_eq_true_eq, decide_eq_true_eq] at hapart
      intro hmem
      have himage := eq_slash_of_ofNat (List.mem_singleton.mp hmem).symm
      omega
    · exact fun hmem => hc (List.mem_singleton.mp hmem).symm

theorem slash_notMem_lowerChar {c : Char} (hc : c ≠ '/') : '/' ∉ lowerChar c :=
  slash_notMem_mapCase (by decide +kernel) (by decide +kernel) hc

theorem slash_notMem_lowerAfter {cs : List Char} (h : '/' ∉ cs) (before : List Char) :
    '/' ∉ lowerAfter before cs := by
  induction cs generalizing before with
  | nil => exact List.not_mem_nil
  | cons c cs ih =>
    rw [List.mem_cons, not_or] at h
    rw [lowerAfter]
    intro hmem
    rcases List.mem_append.mp hmem with hmem | hmem
    · split at hmem
      · exact absurd hmem (by decide)
      · exact slash_notMem_lowerChar (Ne.symm h.1) hmem
    · exact ih h.2 (c :: before) hmem

theorem slash_notMem_lowercase {cs : List Char} (h : '/' ∉ cs) : '/' ∉ lowercase cs :=
  slash_notMem_lowerAfter h []

end Unicode

namespace Naming

/-- Words hold characters of the clusters that they are cut from. -/
theorem mem_of_mem_wordsFrom {before : ClusterKind} {current cs : List (List Char)} {w : List Char}
    (hw : w ∈ wordsFrom before current cs) {c : Char} (hc : c ∈ w) :
    ∃ cluster ∈ current ++ cs, c ∈ cluster := by
  -- a word that ends holds the clusters that were held for it
  have hended : ∀ {current rest : List (List Char)}, c ∈ current.reverse.flatten →
      ∃ cluster ∈ current ++ rest, c ∈ cluster := by
    intro current rest h
    obtain ⟨cluster, hmem, hc⟩ := List.mem_flatten.mp h
    exact ⟨cluster, List.mem_append_left _ (List.mem_reverse.mp hmem), hc⟩
  fun_induction wordsFrom before current cs with
  | case1 before current =>
    rw [List.mem_singleton.mp hw] at hc
    exact hended hc
  | case2 before current cluster cs k hk ih =>
    rcases List.mem_cons.mp hw with rfl | hw
    · exact hended hc
    · obtain ⟨found, hmem, hc⟩ := ih hw
      exact ⟨found, List.mem_append_right _ (List.mem_cons_of_mem _ hmem), hc⟩
  | case3 before current cluster cs k hk hbreak ih =>
    rcases List.mem_cons.mp hw with rfl | hw
    · exact hended hc
    · obtain ⟨found, hmem, hc⟩ := ih hw
      exact ⟨found, List.mem_append_right _ hmem, hc⟩
  | case4 before current cluster cs k hk hbreak ih =>
    obtain ⟨found, hmem, hc⟩ := ih hw
    exact ⟨found, List.perm_middle.mem_iff.mpr hmem, hc⟩

theorem mem_of_mem_words {name w : List Char} (hw : w ∈ words name) {c : Char} (hc : c ∈ w) :
    c ∈ name := by
  obtain ⟨cluster, hmem, hc⟩ := mem_of_mem_wordsFrom (List.mem_filter.mp hw).1 hc
  rw [List.nil_append] at hmem
  rw [← Unicode.flatten_clusters name]
  exact List.mem_flatten.mpr ⟨cluster, hmem, hc⟩

theorem mem_joinWords {c : Char} {ws : List (List Char)} (h : c ∈ joinWords ws) :
    c = '_' ∨ ∃ w ∈ ws, c ∈ w := by
  fun_induction joinWords ws with
  | case1 => cases h
  | case2 w => exact .inr ⟨w, List.mem_singleton_self w, h⟩
  | case3 w w' ws ih =>
    rcases List.mem_append.mp h with h | h
    · exact .inr ⟨w, List.mem_cons_self, h⟩
    · rcases List.mem_cons.mp h with h | h
      · exact .inl h
      · rcases ih h with h | ⟨x, hx, hc⟩
        · exact .inl h
        · exact .inr ⟨x, List.mem_cons_of_mem w hx, hc⟩

/-- A name without slashes has none in snake case. -/
theorem slash_notMem_snakeCase {name : List Char} (h : '/' ∉ name) : '/' ∉ snakeCase name := by
  intro hmem
  rcases mem_joinWords hmem with hslash | ⟨w, hw, hc⟩
  · cases hslash
  · obtain ⟨word, hword, rfl⟩ := List.mem_map.mp hw
    exact Unicode.slash_notMem_lowercase (fun hslash => h (mem_of_mem_words hword hslash)) hc

end Naming

end RouteTemplate
