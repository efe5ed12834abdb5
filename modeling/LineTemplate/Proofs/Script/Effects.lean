import LineTemplate.Proofs.Script.Leading
import LineTemplate.Script.Interpreter

/-!
Everything that scripts do leads from a store to a related one, provided that calls and generators do.
-/

set_option autoImplicit false

namespace LineTemplate.Script.Run

section

variable {R : Store → Store → Prop} [GrowthRelation R]

mutual

theorem leads_make (frames : List Frame) : ∀ d, Leads R (make frames d)
  | .undefined | .null | .bool _ | .number _ | .bigint _ | .text _ => leads_pure _
  | .symbol description => leads_freshSymbol description
  | .array items => leads_bind (leads_makeAll frames items) fun _ => leads_allocate _
  | .object members => leads_bind (leads_makeMembers frames members) fun _ => leads_allocate _
  | .map pairs => leads_bind (leads_makePairs frames pairs) fun _ => leads_allocate _
  | .set items => leads_bind (leads_makeAll frames items) fun _ => leads_allocate _
  | .boxedText _ | .error _ _ _ | .generator _ | .iterable _ | .someFunction | .someIterable =>
    leads_allocate _
  | .function behaviour => leads_makeFunction frames behaviour

theorem leads_makeAll (frames : List Frame) : ∀ items, Leads R (makeAll frames items)
  | [] => leads_pure _
  | d :: rest =>
    leads_bind (leads_make frames d) fun _ => leads_bind (leads_makeAll frames rest) fun _ => leads_pure _

theorem leads_makeMembers (frames : List Frame) : ∀ members, Leads R (makeMembers frames members)
  | [] => leads_pure _
  | (_, d) :: rest =>
    leads_bind (leads_make frames d) fun _ =>
      leads_bind (leads_makeMembers frames rest) fun _ => leads_pure _

theorem leads_makePairs (frames : List Frame) : ∀ pairs, Leads R (makePairs frames pairs)
  | [] => leads_pure _
  | (key, d) :: rest =>
    leads_bind (leads_make frames key) fun _ => leads_bind (leads_make frames d) fun _ =>
      leads_bind (leads_makePairs frames rest) fun _ => leads_pure _

theorem leads_makeFunction (frames : List Frame) :
    ∀ behaviour, Leads R (makeFunction frames behaviour)
  | .const value => leads_bind (leads_make frames value) fun _ => leads_allocate _
  | .decorate _ _ _ => leads_bind (leads_allocate _) fun _ => leads_allocate _
  | .throw _ | .wrap _ _ | .identity | .typeName | .counter _ | .lookup _ _ | .sequence _ | .indexed
  | .entries | .evaluate _ _ => leads_allocate _

end

attribute [grind ←] leads_make leads_makeMembers

@[grind ←]
theorem leads_reportedText (address : Nat) (key : Text) : Leads R (reportedText address key) := by
  unfold reportedText
  grind

theorem leads_describeWithin (depth : Nat) : ∀ v, Leads R (describeWithin depth v) := by
  induction depth with
  | zero =>
    intro v
    unfold describeWithin
    cases v
    all_goals exact leads_pure _
  | succ depth ih =>
    intro v
    unfold describeWithin
    cases v with
    | ref address =>
      refine leads_bind (leads_object? address) fun found => ?_
      cases found with
      | none => exact leads_pure _
      | some o => grind
    | _ => exact leads_pure _

theorem leads_describe (v : Value) : Leads R (describe v) :=
  leads_bind leads_get fun _ => leads_describeWithin _ v

end

section

variable {R : Store → Store → Prop} [EditRelation R] {engine : Engine} [engine.Leads R] {α : Type}

@[grind ←]
theorem leads_ownConversion (frames : List Frame) (address : Nat) (key : Text) :
    Leads R (ownConversion engine frames address key) := by
  unfold ownConversion
  grind

theorem leads_conversions (frames : List Frame) (fuel : Nat) :
    (∀ path address, Leads R (ownText engine frames fuel path address)) ∧
    (∀ path preference address, Leads R (standIn engine frames fuel path preference address)) ∧
    (∀ path v, Leads R (implicitText engine frames fuel path v)) ∧
    ∀ path address sep slots, Leads R (joinSlots engine frames fuel path address sep slots) := by
  induction fuel with
  | zero =>
    refine ⟨fun _ _ => ?_, fun _ _ _ => ?_, fun _ _ => ?_, fun _ _ _ _ => ?_⟩
    · exact leads_pure _
    · exact leads_pure _
    · exact leads_pure _
    · exact leads_pure _
  | succ fuel ih =>
    obtain ⟨own, stands, implicit, joins⟩ := ih
    refine ⟨fun path address => ?_, fun path preference address => ?_, fun path v => ?_,
      fun path address sep slots => ?_⟩
    · unfold ownText
      refine leads_bind (leads_ownConversion frames address "toString") fun result => ?_
      split
      · exact leads_pure _
      · refine leads_bind (leads_object? address) fun found => ?_
        split
        · exact leads_pure _
        · grind
    · unfold standIn
      cases preference
      all_goals
        refine leads_bind ?_ fun first => ?_
        · grind
        · split <;> grind
    · unfold implicitText
      grind
    · unfold joinSlots
      grind

@[grind ←]
theorem leads_implicitText (frames : List Frame) (fuel : Nat) (path : List Nat) (v : Value) :
    Leads R (implicitText engine frames fuel path v) :=
  (leads_conversions frames fuel).2.2.1 path v

@[grind ←]
theorem leads_standIn (frames : List Frame) (fuel : Nat) (path : List Nat) (preference : Preference)
    (address : Nat) : Leads R (standIn engine frames fuel path preference address) :=
  (leads_conversions frames fuel).2.1 path preference address

@[grind ←]
theorem leads_joinSlots (frames : List Frame) (fuel : Nat) (path : List Nat) (address : Nat) (sep : Text)
    (slots : Slots Value) : Leads R (joinSlots engine frames fuel path address sep slots) :=
  (leads_conversions frames fuel).2.2.2 path address sep slots

@[grind ←]
theorem leads_conversionDepth : Leads R (conversionDepth) := by
  unfold conversionDepth
  grind

@[grind ←]
theorem leads_toText (frames : List Frame) (v : Value) : Leads R (toText engine frames v) := by
  unfold toText
  grind

@[grind ←]
theorem leads_textOf (frames : List Frame) (v : Value) : Leads R (textOf engine frames v) := by
  unfold textOf
  grind

@[grind ←]
theorem leads_toPlain (frames : List Frame) (preference : Preference) (v : Value) :
    Leads R (toPlain engine frames preference v) := by
  unfold toPlain
  grind

@[grind ←]
theorem leads_toKey (frames : List Frame) (v : Value) : Leads R (toKey engine frames v) := by
  unfold toKey
  grind

@[grind ←]
theorem leads_plainNumber (frames : List Frame) (v : Value) : Leads R (plainNumber frames v) := by
  unfold plainNumber
  grind

@[grind ←]
theorem leads_toNumber (frames : List Frame) (v : Value) : Leads R (toNumber engine frames v) := by
  unfold toNumber
  grind

@[grind ←]
theorem leads_assignOwn (address : Nat) (key : Text) (v : Value) :
    Leads R (assignOwn address key v) := by
  refine leads_modifyObject address fun o finished => ?_
  grind

@[grind ←]
theorem leads_assignMember (frames : List Frame) (base : Value) (key : Key) (v : Value) :
    Leads R (assignMember engine frames base key v) := by
  unfold assignMember
  split
  · exact leads_modifyObject _ fun _ finished => finished
  · refine leads_bind (leads_kind? _) fun kind => ?_
    grind
  · grind

@[grind ←]
theorem leads_defaultSite (v : Value) : Leads R (defaultSite v) := by
  unfold defaultSite
  grind

@[grind ←]
theorem leads_keyName? (v : Value) : Leads R (keyName? v) := by
  unfold keyName?
  grind

@[grind ←]
theorem leads_bigintResult (frames : List Frame) (op : BinaryOp) (x y : Int) :
    Leads R (bigintResult frames op x y) := by
  unfold bigintResult
  grind

@[grind ←]
theorem leads_toNumeric (frames : List Frame) (plain : Value) : Leads R (toNumeric frames plain) := by
  unfold toNumeric
  grind

@[grind ←]
theorem leads_arithmetic (frames : List Frame) (op : BinaryOp) (l r : Value) :
    Leads R (arithmetic frames op l r) := by
  unfold arithmetic
  grind

@[grind ←]
theorem leads_comparison (frames : List Frame) (op : BinaryOp) (l r : Value) :
    Leads R (comparison frames op l r) := by
  unfold comparison
  grind

@[grind ←]
theorem leads_numeric (frames : List Frame) (v : Value) : Leads R (numeric engine frames v) := by
  unfold numeric
  grind

@[grind ←]
theorem leads_joined (frames : List Frame) (s t : Text) : Leads R (joined frames s t) := by
  unfold joined
  grind

@[grind ←]
theorem leads_sum (frames : List Frame) (l r : Value) : Leads R (sum engine frames l r) := by
  unfold sum
  grind

@[grind ←]
theorem leads_binary (frames : List Frame) (op : BinaryOp) (l r : Value) :
    Leads R (binary engine frames op l r) := by
  unfold binary
  grind

@[grind ←]
theorem leads_loopLimit (v : Value) : Leads R (loopLimit v) := by
  unfold loopLimit
  grind

@[grind ←]
theorem leads_open? (v : Value) : Leads R (open? v) := by
  unfold open?
  split
  · grind
  · refine leads_bind (leads_kind? _) fun kind => ?_
    grind
  · grind

@[grind ←]
theorem leads_next (frames : List Frame) (cursor : Cursor) : Leads R (next engine frames cursor) := by
  unfold next
  grind

@[grind ←]
theorem leads_finishGenerator (fuel : Nat) : ∀ address, Leads R (finishGenerator fuel address) := by
  induction fuel with
  | zero => exact fun _ => leads_pure _
  | succ fuel ih =>
    intro address
    unfold finishGenerator
    grind

@[grind ←]
theorem leads_close (cursor : Cursor) : Leads R (close cursor) := by
  unfold close
  grind

@[grind ←]
theorem leads_forEach (frames : List Frame) {body : Value → Run (Option α)}
    (step : ∀ v, Leads R (body v)) (limit : Nat) :
    ∀ cursor, Leads R (forEach engine frames body limit cursor) := by
  induction limit with
  | zero => exact fun _ => leads_throw _
  | succ limit ih =>
    intro cursor
    unfold forEach
    refine leads_bind (leads_next frames cursor) fun found => ?_
    split
    · exact leads_pure _
    · grind

@[grind ←]
theorem leads_fold {σ : Type} (frames : List Frame) {body : σ → Value → Run σ}
    (step : ∀ s v, Leads R (body s v)) (limit : Nat) :
    ∀ s cursor, Leads R (fold engine frames body limit s cursor) := by
  induction limit with
  | zero => exact fun _ _ => leads_throw _
  | succ limit ih =>
    intro s cursor
    unfold fold
    refine leads_bind (leads_next frames cursor) fun found => ?_
    split
    · exact leads_pure _
    · grind

@[grind ←]
theorem leads_isSequenceObject (v : Value) : Leads R (isSequenceObject v) := by
  unfold isSequenceObject
  grind

/-! A generator that is continued changes what it is. The relation has to allow that at its address. -/

theorem leads_indexNext (frames : List Frame) {address : Nat}
    (changes : ∀ kind, Leads R (setKind address kind)) (cursor : Cursor) (count : Nat) :
    Leads R (indexNext engine frames address cursor count) := by
  unfold indexNext
  grind

theorem leads_decorateNext (frames : List Frame) {address : Nat}
    (changes : ∀ kind, Leads R (setKind address kind)) (cursor : Cursor) (lead trail : Text) :
    Leads R (decorateNext engine frames address cursor lead trail) := by
  unfold decorateNext
  refine leads_bind (leads_next frames cursor) fun found => ?_
  grind

theorem leads_continueGenerator (frames : List Frame) {address : Nat}
    (changes : ∀ kind, Leads R (setKind address kind)) :
    Leads R (continueGenerator engine frames address) := by
  have indexes (cursor : Cursor) (count : Nat) :
      Leads R (indexNext engine frames address cursor count) := leads_indexNext frames changes cursor count
  have decorates (cursor : Cursor) (lead trail : Text) :
      Leads R (decorateNext engine frames address cursor lead trail) :=
    leads_decorateNext frames changes cursor lead trail
  unfold continueGenerator
  refine leads_bind (leads_kind? _) fun kind => ?_
  split
  · refine leads_bind (changes _) fun _ => ?_
    split
    all_goals grind
  · exact leads_pure _

@[grind ←]
theorem leads_ofValue (frames : List Frame) (method : Method) (this : Value) :
    Leads R (Items.ofValue engine frames method this) := by
  unfold Items.ofValue
  extract_lets rest
  have finish (object : Value) : Leads R (rest object) := by
    refine leads_bind (leads_kind? _) fun kind => ?_
    grind
  clear_value rest
  grind

@[grind ←]
theorem leads_item? (address i : Nat) : Leads R (Items.item? address i) := by
  unfold Items.item?
  grind

@[grind ←]
theorem leads_assign (frames : List Frame) (address : Nat) (key : Text) (v : Value) :
    Leads R (Items.assign engine frames address key v) := by
  unfold Items.assign
  grind

@[grind ←]
theorem leads_pushFrom (frames : List Frame) (address : Nat) (args : List Value) :
    ∀ i, Leads R (Items.pushFrom engine frames address i args) := by
  induction args with
  | nil => exact fun _ => leads_pure _
  | cons v rest ih =>
    intro i
    exact leads_bind (leads_assign frames address _ v) fun _ => ih (i + 1)

@[grind ←]
theorem leads_push (frames : List Frame) (items : Items) (args : List Value) :
    Leads R (Items.push engine frames items args) := by
  unfold Items.push
  grind

@[grind ←]
theorem leads_pop (frames : List Frame) (items : Items) : Leads R (Items.pop engine frames items) := by
  unfold Items.pop
  extract_lets i rest
  have finish (found : Option Value) : Leads R (rest found) := by
    refine leads_bind (leads_eraseMember _ _) fun _ => ?_
    grind
  clear_value rest
  grind

@[grind ←]
theorem leads_mapFrom (frames : List Frame) (f : Value) (address count : Nat) :
    ∀ i results, Leads R (Items.mapFrom engine frames f address count i results) := by
  induction count with
  | zero => exact fun _ _ => leads_pure _
  | succ count ih =>
    intro i results
    unfold Items.mapFrom
    grind

@[grind ←]
theorem leads_map (frames : List Frame) (items : Items) (f : Value) :
    Leads R (Items.map engine frames items f) := by
  unfold Items.map
  grind

@[grind ←]
theorem leads_join (frames : List Frame) (items : Items) (separator : Value) :
    Leads R (Items.join engine frames items separator) := by
  unfold Items.join
  extract_lets rest
  have finish (sep : Text) : Leads R (rest sep) := by
    refine leads_bind (leads_kind? _) fun kind => ?_
    extract_lets joined
    have last (slots : Slots Value) : Leads R (joined slots) := by grind
    clear_value joined
    grind
  clear_value rest
  grind

@[grind ←]
theorem leads_apply (frames : List Frame) (method : Method) (this : Value) (args : List Value) :
    Leads R (method.apply engine frames this args) := by
  unfold Method.apply
  grind

end

end LineTemplate.Script.Run
