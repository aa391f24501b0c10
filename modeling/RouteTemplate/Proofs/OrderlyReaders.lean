import RouteTemplate.Proofs.OrderlyReading

/-!
# RouteTemplate.Proofs.OrderlyReaders — expressions are read in an orderly way

The readers of expressions, types, patterns, items and statements call each other through a record:
each keeps in order if those of the record do, and the record is tied to itself by induction on the
depth of the calls (`Readers.isOrderly_ofDepth`).  So the value of an attribute is refused where it
cannot be read, and the attributes in front of a declaration never end abruptly.
-/

namespace RouteTemplate.Typed

/-- The readers that call each other do not end abruptly. -/
structure Readers.IsOrderly (rd : Readers) : Prop where
  unary : ∀ structs r, Orderly (rd.unary structs r)
  operators : ∀ structs base shape r, Orderly (rd.operators structs base shape r)
  tighter : ∀ structs p shape r, Orderly (rd.tighter structs p shape r)
  construct : ∀ r, Orderly (rd.construct r)
  type : ∀ several r, Orderly (rd.type several r)
  word : ∀ inType r, Orderly (rd.word inType r)
  pattern : ∀ r, Orderly (rd.pattern r)
  statement : ∀ r, Orderly (rd.statement r)
  item : ∀ r, Orderly (rd.item r)
  useTree : ∀ allowsRoot r, Orderly (rd.useTree allowsRoot r)

namespace Readers.IsOrderly

theorem exhausted : Readers.exhausted.IsOrderly := by
  constructor <;> intros <;> exact orderly_error_iff.mpr rfl

variable {rd : Readers} (h : rd.IsOrderly)

include h

theorem readExpression (structs : Bool) (r : Remainder) :
    Orderly (rd.readExpression structs r) := by
  simp [Readers.readExpression, h.unary, h.operators]

theorem readAttributes (isInner : Bool) (r : Remainder) :
    Orderly (rd.readAttributes isInner r) := by
  simp [Readers.readAttributes, orderly_readAttributesOf (h.readExpression true)]

theorem readBraced {readPart : Remainder → Passing} (hpart : ∀ r, Orderly (readPart r))
    (inner : Bool) (r : Remainder) : Orderly (rd.readBraced inner readPart r) := by
  simp [Readers.readBraced, h.readAttributes, orderly_readWhile hpart]

theorem readBlock (inner : Bool) (r : Remainder) : Orderly (rd.readBlock inner r) :=
  h.readBraced h.statement inner r

/-! ### Types -/

theorem readLifetime (r : Remainder) : Orderly (rd.readLifetime r) := by
  simp [Readers.readLifetime, h.readAttributes]

theorem readLifetimes (r : Remainder) : Orderly (rd.readLifetimes r) := by
  simp [Readers.readLifetimes, orderly_readAngled h.readLifetime]

theorem readMoreWords (inType : Bool) (first : Bool × Remainder) :
    Orderly (rd.readMoreWords inType first) := by
  apply orderly_stepWhile
  intro s
  simp [h.word]

theorem readWords (inType : Bool) (r : Remainder) : Orderly (rd.readWords inType r) := by
  simp [Readers.readWords, h.word, h.readMoreWords]

theorem readTrait (r : Remainder) : Orderly (rd.readTrait r) := by
  simp [Readers.readTrait, h.readLifetimes, h.readWords]

theorem readBound (r : Remainder) : Orderly (rd.readBound r) := by
  rw [Readers.readBound]
  split
  · exact orderly_ok _
  · split <;> simp [h.readTrait]

theorem passBound (r : Remainder) : Orderly (rd.passBound r) := by
  simp [Readers.passBound, h.readBound]

theorem readMoreBounds (first : Bool × Remainder) : Orderly (rd.readMoreBounds first) := by
  refine orderly_bind (orderly_stepWhile (fun s => ?_) _ _) fun s => orderly_ok _
  simp [h.readBound]

theorem readBounds (several : Bool) (r : Remainder) : Orderly (rd.readBounds several r) := by
  simp [Readers.readBounds, h.readBound, h.readMoreBounds]

theorem readTraits (isObject several : Bool) (r : Remainder) :
    Orderly (rd.readTraits isObject several r) := by
  simp [Readers.readTraits, h.readBounds, DeclarationError.isAbrupt]

theorem readConstant (r : Remainder) : Orderly (rd.readConstant r) := by
  simp [Readers.readConstant, h.readBlock]

theorem readPathEnd (several : Bool) (path : Bool × Remainder) :
    Orderly (rd.readPathEnd several path) := by
  simp [Readers.readPathEnd, h.readMoreBounds]

theorem readSetWord (r : Remainder) : Orderly (rd.readSetWord r) := by
  simp [Readers.readSetWord, h.word, h.readConstant, h.type, orderly_readListed h.passBound,
    h.readMoreWords, h.readPathEnd]

theorem readGeneric (r : Remainder) : Orderly (rd.readGeneric r) := by
  rw [Readers.readGeneric]
  split <;> simp [h.type, h.readConstant, h.readSetWord]

theorem readTypes (r : Remainder) : Orderly (rd.readTypes r) :=
  orderly_readListed (h.type true) r

theorem readResult (several : Bool) (r : Remainder) : Orderly (rd.readResult several r) := by
  rw [Readers.readResult]
  split <;> simp [h.type]

theorem readArguments (inType : Bool) (r : Remainder) :
    Orderly (rd.readArguments inType r) := by
  have hgenerics := orderly_readAngled h.readGeneric
  rw [Readers.readArguments]
  refine orderly_ite (by simp [hgenerics]) (orderly_ite (by simp [hgenerics])
    (orderly_ite ?_ (orderly_ok _)))
  split <;> simp [h.readTypes, h.readResult]

theorem readPathWord (inType : Bool) (r : Remainder) : Orderly (rd.readPathWord inType r) := by
  simp [Readers.readPathWord, h.readArguments]

theorem readTypedPath (inType : Bool) (r : Remainder) :
    Orderly (rd.readTypedPath inType r) := by
  simp [Readers.readTypedPath, h.type, h.readWords]

theorem readParameterType (r : Remainder) : Orderly (rd.readParameterType r) := by
  simp [Readers.readParameterType, h.readAttributes, h.type]

theorem readParameterTypes (r : Remainder) : Orderly (rd.readParameterTypes r) := by
  simp [Readers.readParameterTypes, orderly_readUpTo h.readParameterType, h.readAttributes]

theorem readFunctionType (r : Remainder) : Orderly (rd.readFunctionType r) := by
  simp [Readers.readFunctionType, h.readParameterTypes, h.readResult]

theorem readTupleType (body : List Token) (r : Remainder) :
    Orderly (rd.readTupleType body r) := by
  simp [Readers.readTupleType, h.type, h.readTypes]

theorem readArrayType (body : List Token) (r : Remainder) :
    Orderly (rd.readArrayType body r) := by
  simp [Readers.readArrayType, h.type, h.readExpression]

theorem readPathType (several : Bool) (r : Remainder) : Orderly (rd.readPathType several r) := by
  simp [Readers.readPathType, h.readTypedPath, h.readPathEnd]

theorem readType (several : Bool) (r : Remainder) : Orderly (rd.readType several r) := by
  apply orderly_bind (h.readLifetimes r)
  intro r'
  simp only [orderly_ite_iff, orderly_refuse, orderly_ok, h.readFunctionType, h.readPathType,
    h.readTraits, h.type, implies_true, true_and]
  intros
  split <;> simp [h.readTupleType, h.readArrayType]

/-! ### Patterns -/

theorem readRangeBound (r : Remainder) : Orderly (rd.readRangeBound r) := by
  simp [Readers.readRangeBound, h.readTypedPath, h.readBlock]

theorem readRangePattern (hasStart : Bool) (r : Remainder) :
    Orderly (rd.readRangePattern hasStart r) := by
  simp [Readers.readRangePattern, h.readRangeBound]

theorem readAlternatives (r : Remainder) : Orderly (rd.readAlternatives r) := by
  refine orderly_bind (h.pattern _) fun s => ?_
  rw [orderly_withNote_iff]
  exact orderly_readWhile (fun r => orderly_withoutNote_iff.mpr (h.pattern _)) _

theorem readElement (inSlice : Bool) (r : Remainder) : Orderly (rd.readElement inSlice r) := by
  simp [Readers.readElement, h.readAlternatives, DeclarationError.isAbrupt]

theorem readElements (inSlice : Bool) (r : Remainder) : Orderly (rd.readElements inSlice r) :=
  orderly_readListed (h.readElement inSlice) r

theorem readFieldPattern (r : Remainder) : Orderly (rd.readFieldPattern r) := by
  simp [Readers.readFieldPattern, h.readAttributes, h.readAlternatives]

theorem readFieldPatterns (r : Remainder) : Orderly (rd.readFieldPatterns r) := by
  simp [Readers.readFieldPatterns, orderly_readUpTo h.readFieldPattern, h.readAttributes]

theorem readPathPattern (r : Remainder) : Orderly (rd.readPathPattern r) := by
  refine orderly_bind (h.readTypedPath _ _) fun s => orderly_ite (by simp) ?_
  split <;> simp [h.readFieldPatterns, h.readElements, h.readRangePattern]

theorem readBinding (r : Remainder) : Orderly (rd.readBinding r) := by
  simp [Readers.readBinding, h.pattern]

theorem readPattern (r : Remainder) : Orderly (rd.readPattern r) := by
  unfold Readers.readPattern
  simp only [orderly_ite_iff, orderly_bind_iff, orderly_withNote_iff, orderly_withoutNote_iff,
    orderly_ok, h.pattern, h.readPathPattern, h.readRangeBound, h.readRangePattern, h.readBinding,
    implies_true, true_and, and_true]
  intros
  split <;> simp [h.readElements]

/-! ### Expressions -/

theorem readOperand (structs : Bool) (p : Precedence) (r : Remainder) :
    Orderly (rd.readOperand structs p r) := by
  simp [Readers.readOperand, h.unary, h.tighter]

theorem readTighter (structs : Bool) (p : Precedence) (shape : Shape) (r : Remainder) :
    Orderly (rd.readTighter structs p shape r) := by
  simp [Readers.readTighter, h.operators, h.tighter]

theorem readRange (structs : Bool) (r : Remainder) : Orderly (rd.readRange structs r) := by
  simp [Readers.readRange, h.readOperand]

theorem readCast (r : Remainder) : Orderly (rd.readCast r) := by
  refine orderly_bind (h.type _ _) fun r' => ?_
  split <;> simp [DeclarationError.isAbrupt]

theorem readOperators (structs : Bool) (base : Precedence) (shape : Shape) (r : Remainder) :
    Orderly (rd.readOperators structs base shape r) := by
  rw [Readers.readOperators]
  refine orderly_ite (orderly_ok _) ?_
  split
  · simp [h.readOperand, h.operators, DeclarationError.isAbrupt]
  · simp [h.readOperand, h.readRange, h.readCast, h.operators]

theorem readExpressions (r : Remainder) : Orderly (rd.readExpressions r) :=
  orderly_readListed (h.readExpression true) r

theorem readCall (r : Remainder) : Orderly (rd.readCall r) := by
  simp [Readers.readCall, h.readExpressions]

theorem readMember (r : Remainder) : Orderly (rd.readMember r) := by
  simp [Readers.readMember, orderly_readAngled h.readGeneric, h.readCall]

theorem readApplication (r : Remainder) : Orderly (rd.readApplication r) := by
  rw [Readers.readApplication]
  split <;> simp [h.readExpression, h.readCall, h.readMember]

theorem readApplications (shape : Shape) (r : Remainder) :
    Orderly (rd.readApplications shape r) :=
  orderly_stepWhile (fun _ => orderly_withNote_iff.mpr (h.readApplication _)) _ _

theorem readField (r : Remainder) : Orderly (rd.readField r) := by
  simp [Readers.readField, h.readAttributes, h.readExpression]

theorem readFields (r : Remainder) : Orderly (rd.readFields r) := by
  simp [Readers.readFields, orderly_readUpTo h.readField, h.readExpression]

theorem readPathExpression (structs : Bool) (r : Remainder) :
    Orderly (rd.readPathExpression structs r) := by
  refine orderly_bind (h.readTypedPath _ _) fun s => orderly_ite (by simp) ?_
  split <;> simp [h.readFields]

theorem readBracketed (d : Delimiter) (inner : Remainder) :
    Orderly (rd.readBracketed d inner) := by
  simp [Readers.readBracketed, h.readExpression, h.readExpressions]

theorem readParameter (r : Remainder) : Orderly (rd.readParameter r) := by
  simp [Readers.readParameter, h.readAttributes, h.pattern, h.type]

theorem readClosure (structs : Bool) (r : Remainder) : Orderly (rd.readClosure structs r) := by
  simp [Readers.readClosure, h.readLifetimes, orderly_readListed h.readParameter, h.type,
    h.readBlock, h.readExpression]

theorem readJump (structs : Bool) (r : Remainder) : Orderly (rd.readJump structs r) := by
  simp [Readers.readJump, h.readExpression, DeclarationError.isAbrupt]

theorem readLet (structs : Bool) (r : Remainder) : Orderly (rd.readLet structs r) := by
  simp [Readers.readLet, h.readAlternatives, h.unary, h.operators]

theorem readAtom (structs : Bool) (r : Remainder) : Orderly (rd.readAtom structs r) := by
  unfold Readers.readAtom
  simp only [orderly_ite_iff, orderly_withNote_iff, orderly_ok, h.construct, h.readBlock,
    h.readClosure, h.readPathExpression, h.readJump, h.readLet, h.readRange, implies_true, true_and]
  intros
  split <;> simp [h.readBracketed, DeclarationError.isAbrupt]

theorem readUnary (structs : Bool) (r : Remainder) : Orderly (rd.readUnary structs r) := by
  simp [Readers.readUnary, h.readAttributes, h.unary, h.readAtom, h.readApplications]

/-! ### Generic parameters and functions -/

theorem readGenericParameter (r : Remainder) : Orderly (rd.readGenericParameter r) := by
  refine orderly_bind (h.readAttributes _ _) fun r' => ?_
  dsimp only
  split
  · simp [orderly_readSeries orderly_passLifetime]
  · simp [orderly_readSeries h.passBound, h.type, h.readConstant]

theorem readGenericParameters (r : Remainder) : Orderly (rd.readGenericParameters r) := by
  simp [Readers.readGenericParameters, orderly_readAngled h.readGenericParameter]

theorem readCondition (r : Remainder) : Orderly (rd.readCondition r) := by
  unfold Readers.readCondition
  dsimp only
  split
  · exact orderly_readSeries orderly_passLifetime _
  · simp [h.readLifetimes, h.type, orderly_readSeries h.passBound]

theorem readConditions (r : Remainder) : Orderly (rd.readConditions r) := by
  simp [Readers.readConditions, orderly_readSeries h.readCondition]

theorem readFunctionParameter (s : ParameterState × Remainder) :
    Orderly (rd.readFunctionParameter s) := by
  refine orderly_bind (h.readAttributes _ _) fun r => orderly_ite (orderly_readOpenEnd _) ?_
  split
  case h_1 => simp [h.type, DeclarationError.isAbrupt]
  case h_2 => simp [h.type, h.pattern]

theorem readFunctionParameters (r : Remainder) : Orderly (rd.readFunctionParameters r) := by
  unfold Readers.readFunctionParameters
  rw [orderly_withoutNote_iff]
  exact orderly_stepWhile h.readFunctionParameter _ _

theorem readSignature (allowsSafe : Bool) (r : Remainder) :
    Orderly (rd.readSignature allowsSafe r) := by
  simp [Readers.readSignature, h.readGenericParameters, h.readFunctionParameters, h.readResult,
    h.readConditions]

theorem readFunction (owner : Owner) (r : Remainder) : Orderly (rd.readFunction owner r) := by
  simp [Readers.readFunction, h.readSignature, h.readBlock]

/-! ### Constants, types and structures -/

theorem readOptionalValue (r : Remainder) : Orderly (rd.readOptionalValue r) := by
  simp [Readers.readOptionalValue, h.readExpression]

theorem readConstantItem (starts : List String) (r : Remainder) :
    Orderly (rd.readConstantItem starts r) := by
  simp [Readers.readConstantItem, h.readGenericParameters, h.type, h.readOptionalValue,
    h.readConditions]

theorem readStatic (isForeign : Bool) (r : Remainder) : Orderly (rd.readStatic isForeign r) := by
  simp [Readers.readStatic, h.type, h.readOptionalValue, h.readExpression]

theorem readTypeItem (before behind : Bool) (r : Remainder) :
    Orderly (rd.readTypeItem before behind r) := by
  simp [Readers.readTypeItem, h.readGenericParameters, orderly_readListed h.passBound, h.type,
    h.readConditions]

theorem readFieldType (named : Bool) (r : Remainder) : Orderly (rd.readFieldType named r) := by
  simp [Readers.readFieldType, h.readAttributes, h.type]

theorem readFieldTypes (d : Delimiter) (r : Remainder) : Orderly (rd.readFieldTypes d r) := by
  simp [Readers.readFieldTypes, orderly_readListed (h.readFieldType _)]

theorem readStructure (r : Remainder) : Orderly (rd.readStructure r) := by
  simp [Readers.readStructure, h.readGenericParameters, h.readFieldTypes, h.readConditions]

theorem readVariant (r : Remainder) : Orderly (rd.readVariant r) := by
  simp [Readers.readVariant, h.readAttributes, h.readFieldTypes, h.readOptionalValue]

theorem readEnumeration (r : Remainder) : Orderly (rd.readEnumeration r) := by
  simp [Readers.readEnumeration, h.readGenericParameters, h.readConditions,
    orderly_readListed h.readVariant]

theorem readUnion (r : Remainder) : Orderly (rd.readUnion r) := by
  simp [Readers.readUnion, h.readGenericParameters, h.readConditions, h.readFieldTypes]

/-! ### Groups of items -/

theorem readAssociated (owner : Owner) (r : Remainder) :
    Orderly (rd.readAssociated owner r) := by
  simp [Readers.readAssociated, h.readAttributes, h.readFunction, h.readStatic,
    h.readConstantItem, h.readTypeItem]

theorem readTraitBody (r : Remainder) : Orderly (rd.readTraitBody r) := by
  simp [Readers.readTraitBody, orderly_readListed h.passBound, h.readConditions,
    h.readBraced (h.readAssociated .trait)]

theorem readTraitAlias (r : Remainder) : Orderly (rd.readTraitAlias r) := by
  simp [Readers.readTraitAlias, orderly_readListed h.passBound, h.readConditions]

theorem readTraitItem (isMarked : Bool) (r : Remainder) :
    Orderly (rd.readTraitItem isMarked r) := by
  simp [Readers.readTraitItem, h.readGenericParameters, h.readTraitBody, h.readTraitAlias]

theorem readImplementation (r : Remainder) : Orderly (rd.readImplementation r) := by
  simp [Readers.readImplementation, h.readGenericParameters, h.type, h.readConditions,
    h.readBraced (h.readAssociated .implementation)]

theorem readInterface (r : Remainder) : Orderly (rd.readInterface r) :=
  h.readBraced (h.readAssociated .interface) true _

theorem readModule (r : Remainder) : Orderly (rd.readModule r) := by
  simp [Readers.readModule, h.readBraced h.item]

/-! ### Uses and items -/

theorem readUseTrees (allowsRoot : Bool) (r : Remainder) :
    Orderly (rd.readUseTrees allowsRoot r) :=
  orderly_readListed (fun _ => h.useTree _ _) r

theorem readUseTree (allowsRoot : Bool) (r : Remainder) :
    Orderly (rd.readUseTree allowsRoot r) := by
  unfold Readers.readUseTree
  simp only [orderly_ite_iff, orderly_bind_iff, orderly_readNameOrBlank, orderly_ok, h.useTree,
    implies_true, true_and, and_self]
  intros
  split <;> simp [h.readUseTrees]

theorem readUse (r : Remainder) : Orderly (rd.readUse r) := by
  simp [Readers.readUse, h.readUseTree]

theorem readExtern (r : Remainder) : Orderly (rd.readExtern r) := by
  simp [Readers.readExtern, h.readInterface]

theorem readUnsafe (r : Remainder) : Orderly (rd.readUnsafe r) := by
  simp [Readers.readUnsafe, h.readTraitItem, h.readImplementation, h.readInterface, h.readModule]

theorem readItem (r : Remainder) : Orderly (rd.readItem r) := by
  simp [Readers.readItem, h.readAttributes, h.readFunction, h.readExtern, h.readUse, h.readStatic,
    h.readConstantItem, h.readUnsafe, h.readModule, h.readTypeItem, h.readStructure,
    h.readEnumeration, h.readUnion, h.readTraitItem, h.readImplementation]

/-! ### Blocks -/

theorem readBounded (r : Remainder) : Orderly (rd.readBounded r) := by
  simp [Readers.readBounded, h.readAttributes, h.construct, h.readApplications, h.operators,
    h.readExpression]

theorem readInitial (r : Remainder) : Orderly (rd.readInitial r) := by
  simp [Readers.readInitial, h.readExpression, h.readBlock]

theorem readLocal (r : Remainder) : Orderly (rd.readLocal r) := by
  simp [Readers.readLocal, h.pattern, h.type, h.readInitial]

theorem readExpressionStatement (r : Remainder) : Orderly (rd.readExpressionStatement r) := by
  simp [Readers.readExpressionStatement, h.readBounded, DeclarationError.isAbrupt]

theorem readStatement (r : Remainder) : Orderly (rd.readStatement r) := by
  refine orderly_ite (orderly_ok _) (orderly_bind (h.readAttributes _ _) fun r' => ?_)
  split <;> simp [h.readLocal, h.readItem, h.readExpressionStatement]

theorem readArm (r : Remainder) : Orderly (rd.readArm r) := by
  simp [Readers.readArm, h.readAttributes, h.readAlternatives, h.readExpression, h.readBounded]

theorem readChoice (r : Remainder) : Orderly (rd.readChoice r) := by
  simp [Readers.readChoice, h.readExpression, h.readBlock, h.construct]

theorem readUnlabelled (r : Remainder) : Orderly (rd.readUnlabelled r) := by
  simp [Readers.readUnlabelled, h.readChoice, h.readExpression, h.readBlock, h.readAlternatives,
    h.readBraced h.readArm]

theorem readConstruct (r : Remainder) : Orderly (rd.readConstruct r) := by
  rw [Readers.readConstruct]
  split <;> simp [h.readUnlabelled, DeclarationError.isAbrupt]

end Readers.IsOrderly

/-- No reader ends abruptly, however deep its calls may go. -/
theorem Readers.isOrderly_ofDepth (n : Nat) : (Readers.ofDepth n).IsOrderly := by
  induction n with
  | zero => exact .exhausted
  | succ n ih =>
    exact
      { unary := ih.readUnary
        operators := ih.readOperators
        tighter := ih.readTighter
        construct := ih.readConstruct
        type := ih.readType
        word := ih.readPathWord
        pattern := ih.readPattern
        statement := ih.readStatement
        item := ih.readItem
        useTree := ih.readUseTree }

@[simp] theorem orderly_passExpression (r : Remainder) : Orderly (passExpression r) :=
  (Readers.isOrderly_ofDepth _).readExpression true r

@[simp] theorem orderly_readAttributes (ts : List Token) : Orderly (readAttributes ts) :=
  orderly_readAttributesOf orderly_passExpression false _

end RouteTemplate.Typed
