import RouteTemplate.Typed.Declaration

/-!
# RouteTemplate.Proofs.OrderlyReading — readers of tokens fail in an orderly way

A reader refuses what it cannot read, and does not end abruptly.  This holds of the readers of single
tokens and groups, and of those that repeat another reader if it holds of that one.
-/

namespace RouteTemplate.Typed

/-- A reading does not end abruptly. -/
def Orderly {α : Type} (x : Except DeclarationError α) : Prop :=
  ∀ e, x = .error e → e.isAbrupt = false

section Steps

variable {α β : Type}

@[simp] theorem orderly_ok (a : α) : Orderly (.ok a) := fun _ h => by cases h

@[simp] theorem orderly_error_iff {e : DeclarationError} :
    Orderly (.error e : Except DeclarationError α) ↔ e.isAbrupt = false :=
  ⟨fun h => h e rfl, fun h e' he => by
    cases he
    exact h⟩

@[simp] theorem orderly_bind_iff {x : Except DeclarationError α}
    {f : α → Except DeclarationError β} :
    Orderly (x >>= f) ↔ Orderly x ∧ ∀ a, x = .ok a → Orderly (f a) := by
  cases x with
  | error e =>
    have hbind : ((.error e : Except DeclarationError α) >>= f) = .error e := rfl
    simp [hbind]
  | ok a =>
    have hbind : ((.ok a : Except DeclarationError α) >>= f) = f a := rfl
    simp [hbind]

@[simp] theorem orderly_ite_iff {p : Prop} [Decidable p] {x y : Except DeclarationError α} :
    Orderly (if p then x else y) ↔ (p → Orderly x) ∧ (¬ p → Orderly y) := by
  by_cases hp : p <;> simp [hp]

theorem orderly_bind {x : Except DeclarationError α} {f : α → Except DeclarationError β}
    (hx : Orderly x) (hf : ∀ a, Orderly (f a)) : Orderly (x >>= f) :=
  orderly_bind_iff.mpr ⟨hx, fun a _ => hf a⟩

theorem orderly_ite {p : Prop} [Decidable p] {x y : Except DeclarationError α}
    (hx : Orderly x) (hy : Orderly y) : Orderly (if p then x else y) :=
  orderly_ite_iff.mpr ⟨fun _ => hx, fun _ => hy⟩

end Steps

/-! ### Pieces -/

@[simp] theorem orderly_refuse {α : Type} (starts : List String) (ts : List Token) :
    Orderly (refuse starts ts : Except DeclarationError α) :=
  orderly_error_iff.mpr rfl

@[simp] theorem orderly_readIdentifier (ts : List Token) : Orderly (readIdentifier ts) := by
  unfold readIdentifier
  split <;> simp [DeclarationError.isAbrupt]

@[simp] theorem orderly_readMark (mark : String) (ts : List Token) :
    Orderly (readMark mark ts) := by
  unfold readMark
  split <;> simp [DeclarationError.isAbrupt]

@[simp] theorem orderly_readWord (keyword : String) (ts : List Token) :
    Orderly (readWord keyword ts) := by
  simp [readWord]

@[simp] theorem orderly_readGroup (d : Delimiter) (ts : List Token) : Orderly (readGroup d ts) := by
  unfold readGroup
  split <;> simp [DeclarationError.isAbrupt]

@[simp] theorem orderly_readRangeSign (ts : List Token) : Orderly (readRangeSign ts) := by
  unfold readRangeSign
  split <;> simp [DeclarationError.isAbrupt]

@[simp] theorem orderly_readMacroGroup (ts : List Token) : Orderly (readMacroGroup ts) := by
  unfold readMacroGroup
  split <;> simp [DeclarationError.isAbrupt]

@[simp] theorem orderly_passLifetime (r : Remainder) : Orderly (passLifetime r) := by
  unfold passLifetime
  split <;> simp

@[simp] theorem orderly_readPath (ts : List Token) : Orderly (readPath ts) := by
  unfold readPath
  dsimp only
  split
  · rename_i rest _
    have hidentifier := orderly_readIdentifier rest
    split
    · rename_i e he
      rw [orderly_error_iff]
      exact hidentifier e he
    · simp [DeclarationError.isAbrupt]
  · simp [DeclarationError.isAbrupt]
  · simp

@[simp] theorem orderly_readBoundName (ts : List Token) : Orderly (readBoundName ts) := by
  simp [readBoundName]

@[simp] theorem orderly_readNameOrBlank (starts : List String) (ts : List Token) :
    Orderly (readNameOrBlank starts ts) := by
  simp [readNameOrBlank]

@[simp] theorem orderly_passIdentifier (ts : List Token) : Orderly (passIdentifier ts) := by
  simp [passIdentifier]

@[simp] theorem orderly_readMacroItem (named : Bool) (ts : List Token) :
    Orderly (readMacroItem named ts) := by
  simp [readMacroItem]

@[simp] theorem orderly_readMacroDeclaration (ts : List Token) :
    Orderly (readMacroDeclaration ts) := by
  simp [readMacroDeclaration]

@[simp] theorem orderly_readExternLibrary (ts : List Token) : Orderly (readExternLibrary ts) := by
  simp [readExternLibrary]

@[simp] theorem Owner.orderly_refuseBody {α : Type} (owner : Owner) (ts : List Token) :
    Orderly (owner.refuseBody ts : Except DeclarationError α) := by
  cases owner <;> simp [Owner.refuseBody, DeclarationError.isAbrupt]

@[simp] theorem orderly_readRestriction (r : Remainder) : Orderly (readRestriction r) := by
  rw [readRestriction]
  split
  · rename_i k inner rest _
    refine orderly_ite (orderly_ok _) (orderly_ite ?_ (orderly_ok _))
    have hpath := orderly_readPath inner
    split
    · rename_i e he
      rw [orderly_error_iff]
      exact hpath e he
    · simp
  · simp

@[simp] theorem orderly_readVisibility (r : Remainder) : Orderly (readVisibility r) := by
  simp [readVisibility]

@[simp] theorem orderly_readTemplate (ts : List Token) : Orderly (readTemplate ts) := by
  unfold readTemplate
  split <;> simp [DeclarationError.isAbrupt]

@[simp] theorem orderly_readEnd (ts : List Token) : Orderly (readEnd ts) := by
  unfold readEnd
  split <;> simp

theorem isAbrupt_of_leftover? {r : Remainder} {e : DeclarationError} (h : r.leftover? = some e) :
    e.isAbrupt = false := by
  rw [Remainder.leftover?] at h
  split at h
  · cases h
    rfl
  · split at h
    · cases h
    · cases h
      rfl

theorem orderly_leftover? (r : Remainder) {α : Type} (a : α) :
    Orderly (match r.leftover? with
      | some e => .error e
      | none => .ok a) := by
  split
  · rename_i e he
    rw [orderly_error_iff]
    exact isAbrupt_of_leftover? he
  · exact orderly_ok a

/-! ### Repeated reading -/

@[simp] theorem orderly_withoutNote_iff {α : Type} {x : Except DeclarationError (α × Remainder)} :
    Orderly (withoutNote x) ↔ Orderly x := by
  simp [withoutNote]

@[simp] theorem orderly_withNote_iff {α : Type} {note : α} {x : Passing} :
    Orderly (withNote note x) ↔ Orderly x := by
  simp [withNote]

theorem orderly_stepWhile {α : Type} {goesOn : α → Bool} {step : α → Except DeclarationError α}
    (h : ∀ a, Orderly (step a)) (ts : List Token) (a : α) :
    Orderly (stepWhile goesOn step ts a) := by
  induction ts generalizing a with
  | nil => exact orderly_ite (h a) (orderly_ok a)
  | cons t ts ih => exact orderly_ite (orderly_bind (h a) ih) (orderly_ok a)

section Repeated

variable {mark : String} {isEnd : List Token → Bool} {readPart : Remainder → Passing}
  (h : ∀ r, Orderly (readPart r))

include h

theorem orderly_readWhile (r : Remainder) : Orderly (readWhile isEnd readPart r) :=
  orderly_stepWhile h _ r

theorem orderly_readSeparated (r : Remainder) :
    Orderly (readSeparated mark isEnd readPart r) := by
  simp [readSeparated, h]

theorem orderly_readListed (r : Remainder) : Orderly (readListed mark isEnd readPart r) :=
  orderly_readWhile (orderly_readSeparated h) r

theorem orderly_readUpTo (r : Remainder) : Orderly (readUpTo isEnd readPart r) :=
  orderly_readWhile (orderly_readSeparated h) r

theorem orderly_readSeries (r : Remainder) : Orderly (readSeries mark isEnd readPart r) := by
  unfold readSeries
  rw [orderly_withoutNote_iff]
  apply orderly_stepWhile
  intro s
  exact orderly_bind (h s.2) fun r => orderly_ok _

theorem orderly_readAngled (r : Remainder) : Orderly (readAngled readPart r) := by
  simp [readAngled, orderly_readListed h]

end Repeated

@[simp] theorem orderly_readParameterEnd (state : ParameterState) (r : Remainder) :
    Orderly (readParameterEnd state r) :=
  orderly_withNote_iff.mpr (orderly_readSeparated orderly_ok r)

@[simp] theorem orderly_readOpenEnd (r : Remainder) : Orderly (readOpenEnd r) := by
  simp [readOpenEnd]

/-! ### Attributes -/

@[simp] theorem orderly_readAttributePath (ts : List Token) : Orderly (readAttributePath ts) := by
  simp [readAttributePath]

section Attributes

variable {readValue : Remainder → Passing} (h : ∀ r, Orderly (readValue r))

include h

theorem orderly_readAttributeValue (r : Remainder) : Orderly (readAttributeValue readValue r) := by
  rw [readAttributeValue]
  split <;> simp [h, DeclarationError.isAbrupt]

theorem orderly_readAttributeBody (r : Remainder) : Orderly (readAttributeBody readValue r) := by
  rw [readAttributeBody]
  refine orderly_bind (orderly_readAttributePath _) ?_
  rintro ⟨path, rest⟩
  dsimp only
  split
  · exact orderly_ok _
  · simp [orderly_readAttributeValue h]

theorem orderly_readAttributesOf (isInner : Bool) (r : Remainder) :
    Orderly (readAttributesOf readValue isInner r) := by
  refine orderly_stepWhile (fun s => ?_) _ _
  simp [readAttribute, orderly_readAttributeBody h]

end Attributes

end RouteTemplate.Typed
