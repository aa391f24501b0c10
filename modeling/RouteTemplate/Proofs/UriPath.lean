import RouteTemplate.Proofs.Confinement
import RouteTemplate.Session

/-!
# RouteTemplate.Proofs.UriPath — paths inside URIs

A request names a path alone or behind a scheme and an authority, and a query and a fragment may
follow it.  From each of these texts `Uri.path` takes the path as it is (`Uri.path_surrounded`),
provided that it is made of path characters.  The encoded values of a path are, so a path that is
built comes through a URI unchanged and is matched there as it is matched alone
(`Template.report_of_uri`).
-/

namespace RouteTemplate

/-! ### What surrounds a path -/

namespace Uri

/-- A text is an authority as a whole. -/
def IsAuthority (host : List Char) : Prop :=
  host ≠ [] ∧ afterAuthority .start host = .ok []

/-- What stands in front of a path: nothing, or a scheme and an authority. -/
inductive Front : List Char → Prop where
  | nothing : Front []
  | http {host : List Char} : IsAuthority host → Front ("http://".toList ++ host)
  | https {host : List Char} : IsAuthority host → Front ("https://".toList ++ host)

/-- A text is a query as a whole. -/
def IsQueryText (query : List Char) : Prop := ∀ c ∈ query, isQueryChar c = true

/-- What stands behind a path: nothing, a query, a fragment, or both. -/
inductive Back : List Char → Prop where
  | nothing : Back []
  | query {q : List Char} : IsQueryText q → Back ('?' :: q)
  | fragment (f : List Char) : Back ('#' :: f)
  | queryFragment {q : List Char} (f : List Char) : IsQueryText q → Back ('?' :: (q ++ '#' :: f))

/-! ### Reading behind a path -/

theorem isQuery_of_isQueryText {q : List Char} (h : IsQueryText q) : isQuery q = true := by
  induction q with
  | nil => rfl
  | cons c q ih =>
    obtain ⟨hc, hq⟩ := List.forall_mem_cons.mp h
    rw [isQuery, hc, ih hq, Bool.and_self, Bool.or_true]

theorem isQuery_append_fragment {q : List Char} (h : IsQueryText q) (f : List Char) :
    isQuery (q ++ '#' :: f) = true := by
  induction q with
  | nil => rfl
  | cons c q ih =>
    obtain ⟨hc, hq⟩ := List.forall_mem_cons.mp h
    rw [List.cons_append, isQuery, hc, ih hq, Bool.and_self, Bool.or_true]

theorem pathBeforeQuery_of_back {back : List Char} (h : Back back) :
    pathBeforeQuery back = .ok [] := by
  cases h with
  | nothing => rfl
  | query hq => rw [pathBeforeQuery, if_pos rfl, if_pos (isQuery_of_isQueryText hq)]
  | fragment f => rfl
  | queryFragment f hq => rw [pathBeforeQuery, if_pos rfl, if_pos (isQuery_append_fragment hq f)]

/-- A path ends where its query or fragment begins, and nowhere before. -/
theorem pathBeforeQuery_append {p back : List Char} (hp : ∀ c ∈ p, isPathChar c = true)
    (hb : Back back) : pathBeforeQuery (p ++ back) = .ok p := by
  induction p with
  | nil => exact pathBeforeQuery_of_back hb
  | cons c p ih =>
    obtain ⟨hc, hp⟩ := List.forall_mem_cons.mp hp
    have hquery : c ≠ '?' := by
      rintro rfl
      exact absurd hc (by decide)
    have hfragment : c ≠ '#' := by
      rintro rfl
      exact absurd hc (by decide)
    rw [List.cons_append, pathBeforeQuery, if_neg hquery, if_neg hfragment, if_pos hc, ih hp]

/-! ### Reading in front of a path -/

/-- An authority ends at the first character that may end one. -/
theorem afterAuthority_append {s : AuthorityState} {host : List Char}
    (h : afterAuthority s host = .ok []) {c : Char} (hc : endsAuthority c = true)
    (rest : List Char) : afterAuthority s (host ++ c :: rest) = .ok (c :: rest) := by
  induction host generalizing s with
  | nil =>
    rw [afterAuthority] at h
    have hs : s.complete = true := by
      by_contra hn
      rw [if_neg hn] at h
      cases h
    rw [List.nil_append, afterAuthority, if_pos hc, if_pos hs]
  | cons d host ih =>
    rw [afterAuthority] at h
    rw [List.cons_append, afterAuthority]
    by_cases hd : endsAuthority d = true
    · rw [if_pos hd] at h
      split at h <;> cases h
    · rw [if_neg hd] at h ⊢
      cases hn : s.next d with
      | error e =>
        rw [hn] at h
        cases h
      | ok s' =>
        rw [hn] at h
        exact ih h

theorem endsAuthority_head {c : Char} {host : List Char} (h : IsAuthority (c :: host)) :
    endsAuthority c = false := by
  obtain ⟨-, h⟩ := h
  rw [afterAuthority] at h
  by_contra hc
  rw [Bool.not_eq_false] at hc
  rw [if_pos hc] at h
  split at h <;> cases h

theorem afterPrefix?_append {expected : List Char} (h : expected.map Char.toLower = expected)
    (cs : List Char) : afterPrefix? expected (expected ++ cs) = some cs := by
  rw [afterPrefix?, List.take_left, if_pos h, List.drop_left]

theorem afterScheme?_http (cs : List Char) :
    afterScheme? ("http://".toList ++ cs) = .ok (some cs) := by
  rw [afterScheme?, afterPrefix?_append (by decide)]

theorem afterScheme?_https (cs : List Char) :
    afterScheme? ("https://".toList ++ cs) = .ok (some cs) := by
  have hhttp : afterPrefix? "http://".toList ("https://".toList ++ cs) = none := by
    rw [afterPrefix?]
    exact if_neg (show ¬ "https:/".toList.map Char.toLower = "http://".toList by decide)
  rw [afterScheme?, hhttp, afterPrefix?_append (by decide)]

/-- Behind a scheme and an authority stands the path. -/
theorem pathOfFull_append {cs host p back : List Char} (hcs : afterScheme? cs =
    .ok (some (host ++ '/' :: (p ++ back)))) (hhost : IsAuthority host)
    (hp : ∀ c ∈ p, isPathChar c = true) (hb : Back back) : pathOfFull cs = .ok ('/' :: p) := by
  obtain ⟨c, host, rfl⟩ := List.exists_cons_of_ne_nil hhost.1
  have hslash : ∀ d ∈ '/' :: p, isPathChar d = true := List.forall_mem_cons.mpr ⟨by decide, hp⟩
  have hauthority := afterAuthority_append (c := '/') hhost.2 (by decide) (p ++ back)
  have hpath := pathBeforeQuery_append hslash hb
  rw [List.cons_append] at hauthority hpath hcs
  simp only [pathOfFull, hcs, hauthority, endsAuthority_head hhost, hpath, Bool.false_eq_true,
    if_false]

/-- A path is taken out of a URI as it is. -/
theorem path_surrounded {front p back : List Char} (hf : Front front)
    (hp : ∀ c ∈ p, isPathChar c = true) (hb : Back back)
    (hl : (Utf8.bytes (front ++ '/' :: (p ++ back))).length ≤ maxLength) :
    path (front ++ '/' :: (p ++ back)) = .ok ('/' :: p) := by
  unfold path
  rw [if_neg (Nat.not_lt.mpr hl)]
  cases hf with
  | nothing =>
    have hslash : ∀ d ∈ '/' :: p, isPathChar d = true := List.forall_mem_cons.mpr ⟨by decide, hp⟩
    exact pathBeforeQuery_append hslash hb
  | @http host hhost =>
    rw [List.append_assoc]
    exact pathOfFull_append (afterScheme?_http _) hhost hp hb
  | @https host hhost =>
    rw [List.append_assoc]
    exact pathOfFull_append (afterScheme?_https _) hhost hp hb

/-! ### Host names -/

/-- A name of letters, digits, dots and hyphens is an authority. -/
theorem isAuthority_name {name : List Char} (hne : name ≠ [])
    (h : ∀ c ∈ name, c.isAlphanum = true ∨ c ∈ ['.', '-']) : IsAuthority name := by
  refine ⟨hne, ?_⟩
  clear hne
  -- no character of the name changes what has been seen of the authority
  induction name with
  | nil => rfl
  | cons c name ih =>
    obtain ⟨hc, hname⟩ := List.forall_mem_cons.mp h
    have hascii : c.toNat < 0x80 := by
      rcases hc with hc | hc
      · exact Percent.toNat_lt_of_isAlphanum hc
      · have hall : ∀ d ∈ ['.', '-'], d.toNat < 0x80 := by simp
        exact hall c hc
    have hsweep : ∀ n < 0x80, (Char.ofNat n).isAlphanum = true ∨ Char.ofNat n ∈ ['.', '-'] →
        endsAuthority (Char.ofNat n) = false ∧ isAuthorityChar (Char.ofNat n) = true ∧
          Char.ofNat n ∉ [':', '[', ']', '@', '%'] := by
      decide +kernel
    obtain ⟨hends, hchar, hplain⟩ := Percent.forall_ascii
      (P := fun c => c.isAlphanum = true ∨ c ∈ ['.', '-'] →
        endsAuthority c = false ∧ isAuthorityChar c = true ∧ c ∉ [':', '[', ']', '@', '%'])
      hsweep hascii hc
    simp only [List.mem_cons, List.not_mem_nil, or_false, not_or] at hplain
    have hnext : AuthorityState.start.next c = .ok .start := by
      simp [AuthorityState.next, AuthorityState.start, hplain, hchar]
    rw [afterAuthority, hends, hnext]
    exact ih hname

end Uri

/-! ### Paths that are built -/

namespace Percent

theorem isPathChar_of_mem_encode {c : Char} {cs : List Char} (h : c ∈ encode cs) :
    Uri.isPathChar c = true := by
  have hall : ('%' :: plainCharacters).all Uri.isPathChar = true := by decide
  exact List.all_eq_true.mp hall c ((escaped_encode cs).mem h)

end Percent

theorem mem_joinPieces {c : Char} {ps : List (List Char)} (h : c ∈ joinPieces ps) :
    c = '/' ∨ ∃ p ∈ ps, c ∈ p := by
  induction ps with
  | nil => exact absurd h List.not_mem_nil
  | cons p ps ih =>
    cases ps with
    | nil => exact Or.inr ⟨p, List.mem_singleton_self p, h⟩
    | cons q qs =>
      rw [joinPieces_cons_cons, List.mem_append, List.mem_cons] at h
      rcases h with h | h | h
      · exact Or.inr ⟨p, List.mem_cons_self, h⟩
      · exact Or.inl h
      · rcases ih h with h | ⟨x, hx, hc⟩
        · exact Or.inl h
        · exact Or.inr ⟨x, List.mem_cons_of_mem p hx, hc⟩

namespace Template

variable (t : Template)

/-- The characters of a path that is built are those of the literal segments, slashes, and the
characters of encoded values. -/
theorem isPathChar_pathOf
    (hliteral : ∀ text, Segment.literal text ∈ t.segments → ∀ c ∈ text, Uri.isPathChar c = true)
    {values : List ParamValue} (hl : values.length = t.paramCount) :
    ∀ c ∈ t.pathOf (values.map ParamValue.text), Uri.isPathChar c = true := by
  have hpieces : ∀ p ∈ pieces (t.pathOf (values.map ParamValue.text)),
      ∀ c ∈ p, Uri.isPathChar c = true := by
    refine forall_mem_of_forall₂ (P := (· ∈ t.segments)) ?_ (t.forall₂_placed_pathOf hl)
      fun s hs => hs
    intro s piece hplaced hs
    cases s with
    | literal text =>
      rw [show piece = text from hplaced]
      exact hliteral text hs
    | param name =>
      obtain ⟨v, -, rfl⟩ := hplaced
      exact fun c hc => Percent.isPathChar_of_mem_encode hc
  intro c hc
  rw [← joinPieces_pieces (t.pathOf (values.map ParamValue.text))] at hc
  rcases mem_joinPieces hc with rfl | ⟨p, hp, hc⟩
  · decide
  · exact hpieces p hp c hc

/-- A template that begins with a slash builds paths that do. -/
theorem pathOf_eq_slash_cons (hslash : t.text.head? = some '/') {values : List ParamValue}
    (hl : values.length = t.paramCount) :
    ∃ p, t.pathOf (values.map ParamValue.text) = '/' :: p := by
  obtain ⟨cs, hcs⟩ := List.head?_eq_some_iff.mp hslash
  obtain ⟨q, qs, hq⟩ := List.exists_cons_of_ne_nil (pieces_ne_nil cs)
  have hsegments : t.segments.map Segment.text = [] :: q :: qs := by
    rw [← t.pieces_text, hcs, pieces_slash, hq]
  obtain ⟨s, rest, hs, hempty, hrest⟩ := List.map_eq_cons_iff.mp hsegments
  obtain ⟨s', rest', rfl, -, -⟩ := List.map_eq_cons_iff.mp hrest
  have hplaced := t.forall₂_placed_pathOf hl
  rw [hs] at hplaced
  obtain ⟨p, ps, hp, hps, hpieces⟩ := List.forall₂_cons_left_iff.mp hplaced
  obtain ⟨p', ps', -, -, rfl⟩ := List.forall₂_cons_left_iff.mp hps
  -- the segment in front of the slash is empty literal text, and so is its piece
  have hnil : p = [] := by
    cases s with
    | literal text => exact (show p = text from hp).trans hempty
    | param name => cases hempty
  refine ⟨joinPieces (p' :: ps'), ?_⟩
  rw [← joinPieces_pieces (t.pathOf (values.map ParamValue.text)), hpieces, joinPieces_cons_cons,
    hnil, List.nil_append]

/-- **Paths come through URIs.**  A template begins with a slash, and its literal text is made of
path characters.  Then every path that it builds is the path of each URI that has the path alone or
behind a scheme and an authority, with or without a query and a fragment behind it.  So all
templates match the URI as they match the path. -/
theorem report_of_uri (hslash : t.text.head? = some '/')
    (hliteral : ∀ text, Segment.literal text ∈ t.segments → ∀ c ∈ text, Uri.isPathChar c = true)
    (s : Supply) {path : List Char} (h : s.build t = .ok path) {front back : List Char}
    (hf : Uri.Front front) (hb : Uri.Back back)
    (hl : (Utf8.bytes (front ++ path ++ back)).length ≤ Uri.maxLength) :
    Uri.path (front ++ path ++ back) = .ok path ∧
      ∀ u : Template, u.reportOf true (front ++ path ++ back) = .ok (u.report path) := by
  obtain ⟨values, hv, rfl⟩ := (Supply.build_eq_pathOf_iff t s).mp h
  have hlen := Supply.length_of_given t s hv
  have hchars := t.isPathChar_pathOf hliteral hlen
  obtain ⟨p, hp⟩ := t.pathOf_eq_slash_cons hslash hlen
  rw [hp] at hchars hl ⊢
  rw [List.append_assoc, List.cons_append] at hl ⊢
  have hpath : Uri.path (front ++ '/' :: (p ++ back)) = .ok ('/' :: p) :=
    Uri.path_surrounded hf (List.forall_mem_cons.mp hchars).2 hb hl
  refine ⟨hpath, fun u => ?_⟩
  rw [reportOf, if_pos rfl, hpath]

/-- A slash, a question mark and a colon in a value stay in the path of a full URI with a query. -/
theorem report_of_uri_userPage :
    userPage.build (.pairs [("id".toList, .value (.str "/?:".toList))]) =
        .ok "/users/%2F%3F%3A".toList ∧
      Uri.path "https://example.com/users/%2F%3F%3A?page=2".toList =
        .ok "/users/%2F%3F%3A".toList ∧
      userPage.reportOf true "https://example.com/users/%2F%3F%3A?page=2".toList =
        .ok (userPage.report "/users/%2F%3F%3A".toList) := by
  have h : (Supply.named (.pairs [("id".toList, .value (.str "/?:".toList))])).build userPage =
      .ok "/users/%2F%3F%3A".toList := by decide
  have hliteral : ∀ text, Segment.literal text ∈ userPage.segments →
      ∀ c ∈ text, Uri.isPathChar c = true := by
    intro text htext
    simp only [userPage, List.mem_cons, Segment.literal.injEq, reduceCtorEq, List.not_mem_nil,
      or_false] at htext
    rcases htext with rfl | rfl
    · exact fun c hc => absurd hc List.not_mem_nil
    · exact List.all_eq_true.mp (show "users".toList.all Uri.isPathChar = true by decide)
  have hhost : Uri.IsAuthority "example.com".toList := by
    refine Uri.isAuthority_name (by decide) fun c hc => ?_
    have hall : "example.com".toList.all
        (fun c => c.isAlphanum || ['.', '-'].contains c) = true := by decide
    have hchar := List.all_eq_true.mp hall c hc
    rwa [Bool.or_eq_true, List.contains_iff_mem] at hchar
  have hquery : Uri.IsQueryText "page=2".toList := by
    exact List.all_eq_true.mp (show "page=2".toList.all Uri.isQueryChar = true by decide)
  obtain ⟨hpath, hreport⟩ := userPage.report_of_uri (by decide) hliteral _ h (.https hhost)
    (.query hquery) (by decide)
  exact ⟨h, hpath, hreport userPage⟩

end Template

end RouteTemplate
