import AegisOt.Misc.Checks

/-!
# JSON under hooks

What Python's `json.loads` recognises in a text, before its hooks have run, and what the hooks
make of it. An object is the list of its pairs, in which a name may come twice; a constant is one
of `NaN` and the infinities; a string is the list of its code points, lone surrogates among them.
The hook of the pairs is called for every object after the hooks of its members, and the hook of
the constants for every constant. Nothing here names a program.
-/

namespace AegisOt

/-- JSON text as the decoder recognises it. -/
inductive RawJson where
  | null
  | bool (value : Bool)
  | number (token : List Char)
  | constant (name : List Char)
  | str (text : List ℕ)
  | array (items : List RawJson)
  | object (members : List (List ℕ × RawJson))
  deriving Inhabited

namespace RawJson

/-- `isinstance(value, dict)`. -/
def isObject : RawJson → Bool
  | .object _ => true
  | _ => false

section

variable {ε : Type} (pairsHook : List (List ℕ × RawJson) → Except ε (List (List ℕ × RawJson)))
  (constantHook : List Char → Except ε RawJson)

mutual

/-- The value that the hooks make of what was recognised. -/
def hooked : RawJson → Except ε RawJson
  | .null => .ok .null
  | .bool value => .ok (.bool value)
  | .number token => .ok (.number token)
  | .constant name => constantHook name
  | .str text => .ok (.str text)
  | .array items => do
      let items ← hookedItems items
      .ok (.array items)
  | .object members => do
      let members ← hookedMembers members
      let members ← pairsHook members
      .ok (.object members)

def hookedItems : List RawJson → Except ε (List RawJson)
  | [] => .ok []
  | item :: rest => do
      let item ← hooked item
      let rest ← hookedItems rest
      .ok (item :: rest)

def hookedMembers : List (List ℕ × RawJson) → Except ε (List (List ℕ × RawJson))
  | [] => .ok []
  | member :: rest => do
      let value ← hooked member.2
      let rest ← hookedMembers rest
      .ok ((member.1, value) :: rest)

end

end

/-! ## Values at any depth -/

/-- The first value occurs in the second, at some depth. -/
inductive Within : RawJson → RawJson → Prop
  | self (value : RawJson) : Within value value
  | item {value item : RawJson} {items : List RawJson} (hitem : item ∈ items)
      (h : Within value item) : Within value (.array items)
  | member {value item : RawJson} {name : List ℕ} {members : List (List ℕ × RawJson)}
      (hmember : (name, item) ∈ members) (h : Within value item) : Within value (.object members)

/-- At no depth does an object name a member twice, and nowhere is a constant. -/
structure Strict (value : RawJson) : Prop where
  names_nodup : ∀ members, Within (.object members) value → (members.map Prod.fst).Nodup
  no_constant : ∀ name, ¬ Within (.constant name) value

theorem strict_array_iff {items : List RawJson} :
    Strict (.array items) ↔ ∀ item ∈ items, Strict item := by
  constructor
  · intro h item hitem
    exact ⟨fun members hmembers => h.names_nodup members (.item hitem hmembers),
      fun name hname => h.no_constant name (.item hitem hname)⟩
  · intro h
    refine ⟨fun members hmembers => ?_, fun name hname => ?_⟩
    · cases hmembers with
      | item hitem hwithin => exact (h _ hitem).names_nodup members hwithin
    · cases hname with
      | item hitem hwithin => exact (h _ hitem).no_constant name hwithin

theorem strict_object_iff {members : List (List ℕ × RawJson)} :
    Strict (.object members) ↔
      (members.map Prod.fst).Nodup ∧ ∀ member ∈ members, Strict member.2 := by
  constructor
  · intro h
    refine ⟨h.names_nodup members (.self _), fun member hmember => ?_⟩
    exact ⟨fun inner hinner => h.names_nodup inner (.member hmember hinner),
      fun name hname => h.no_constant name (.member hmember hname)⟩
  · rintro ⟨hnodup, h⟩
    refine ⟨fun inner hinner => ?_, fun name hname => ?_⟩
    · cases hinner with
      | self => exact hnodup
      | member hmember hwithin => exact (h _ hmember).names_nodup inner hwithin
    · cases hname with
      | member hmember hwithin => exact (h _ hmember).no_constant name hwithin

/-- A value that is neither an array nor an object nor a constant. -/
theorem strict_of_leaf {value : RawJson} (h : ∀ inner, Within inner value → inner = value)
    (hobject : value.isObject = false) (hconstant : ∀ name, value ≠ .constant name) :
    Strict value := by
  refine ⟨fun members hmembers => ?_, fun name hname => hconstant name (h _ hname).symm⟩
  rw [← h _ hmembers] at hobject
  cases hobject

/-! ## Hooks that refuse -/

section

variable {ε : Type} {pairsHook : List (List ℕ × RawJson) → Except ε (List (List ℕ × RawJson))}
  {constantHook : List Char → Except ε RawJson}

/-- The hook of the pairs refuses a name that comes twice, and keeps other pairs. -/
def RefusesDuplicates
    (pairsHook : List (List ℕ × RawJson) → Except ε (List (List ℕ × RawJson))) : Prop :=
  ∀ members result, pairsHook members = .ok result ↔
    (members.map Prod.fst).Nodup ∧ members = result

/-- The hook of the constants refuses them all. -/
def RefusesConstants (constantHook : List Char → Except ε RawJson) : Prop :=
  ∀ name result, constantHook name ≠ .ok result

mutual

/-- Such hooks accept the strict values, as they are. -/
theorem hooked_eq_ok (hpairs : RefusesDuplicates pairsHook)
    (hconstant : RefusesConstants constantHook) : ∀ value result,
    hooked pairsHook constantHook value = .ok result ↔ Strict value ∧ value = result
  | .null, result => by
    have hstrict : Strict .null := strict_of_leaf (fun _ h => by cases h; rfl) rfl nofun
    simp [hooked, hstrict]
  | .bool value, result => by
    have hstrict : Strict (.bool value) := strict_of_leaf (fun _ h => by cases h; rfl) rfl nofun
    simp [hooked, hstrict]
  | .number token, result => by
    have hstrict : Strict (.number token) :=
      strict_of_leaf (fun _ h => by cases h; rfl) rfl nofun
    simp [hooked, hstrict]
  | .str text, result => by
    have hstrict : Strict (.str text) := strict_of_leaf (fun _ h => by cases h; rfl) rfl nofun
    simp [hooked, hstrict]
  | .constant name, result => by
    rw [hooked]
    constructor
    · intro h
      exact absurd h (hconstant name result)
    · rintro ⟨hstrict, -⟩
      exact absurd (.self _) (hstrict.no_constant name)
  | .array items, result => by
    rw [hooked, bind_eq_ok, strict_array_iff]
    constructor
    · rintro ⟨found, hfound, hresult⟩
      obtain ⟨hstrict, rfl⟩ := (hookedItems_eq_ok hpairs hconstant items found).mp hfound
      exact ⟨hstrict, Except.ok.inj hresult⟩
    · rintro ⟨hstrict, hresult⟩
      exact ⟨items, (hookedItems_eq_ok hpairs hconstant items items).mpr ⟨hstrict, rfl⟩,
        congrArg _ hresult⟩
  | .object members, result => by
    rw [hooked, bind_eq_ok, strict_object_iff]
    constructor
    · rintro ⟨found, hfound, h⟩
      obtain ⟨hstrict, rfl⟩ := (hookedMembers_eq_ok hpairs hconstant members found).mp hfound
      obtain ⟨kept, hkept, hresult⟩ := bind_eq_ok.mp h
      obtain ⟨hnodup, rfl⟩ := (hpairs members kept).mp hkept
      exact ⟨⟨hnodup, hstrict⟩, Except.ok.inj hresult⟩
    · rintro ⟨⟨hnodup, hstrict⟩, hresult⟩
      refine ⟨members,
        (hookedMembers_eq_ok hpairs hconstant members members).mpr ⟨hstrict, rfl⟩, ?_⟩
      rw [(hpairs members members).mpr ⟨hnodup, rfl⟩, ok_bind, hresult]

theorem hookedItems_eq_ok (hpairs : RefusesDuplicates pairsHook)
    (hconstant : RefusesConstants constantHook) : ∀ items results,
    hookedItems pairsHook constantHook items = .ok results ↔
      (∀ item ∈ items, Strict item) ∧ items = results
  | [], results => by simp [hookedItems]
  | item :: rest, results => by
    rw [hookedItems, bind_eq_ok]
    constructor
    · rintro ⟨first, hfirst, h⟩
      obtain ⟨others, hothers, hresults⟩ := bind_eq_ok.mp h
      obtain ⟨hstrict, rfl⟩ := (hooked_eq_ok hpairs hconstant item first).mp hfirst
      obtain ⟨hall, rfl⟩ := (hookedItems_eq_ok hpairs hconstant rest others).mp hothers
      exact ⟨List.forall_mem_cons.mpr ⟨hstrict, hall⟩, Except.ok.inj hresults⟩
    · rintro ⟨hall, rfl⟩
      obtain ⟨hstrict, hrest⟩ := List.forall_mem_cons.mp hall
      refine ⟨item, (hooked_eq_ok hpairs hconstant item item).mpr ⟨hstrict, rfl⟩, ?_⟩
      rw [(hookedItems_eq_ok hpairs hconstant rest rest).mpr ⟨hrest, rfl⟩, ok_bind]

theorem hookedMembers_eq_ok (hpairs : RefusesDuplicates pairsHook)
    (hconstant : RefusesConstants constantHook) : ∀ members results,
    hookedMembers pairsHook constantHook members = .ok results ↔
      (∀ member ∈ members, Strict member.2) ∧ members = results
  | [], results => by simp [hookedMembers]
  | member :: rest, results => by
    rw [hookedMembers, bind_eq_ok]
    constructor
    · rintro ⟨first, hfirst, h⟩
      obtain ⟨others, hothers, hresults⟩ := bind_eq_ok.mp h
      obtain ⟨hstrict, rfl⟩ := (hooked_eq_ok hpairs hconstant member.2 first).mp hfirst
      obtain ⟨hall, rfl⟩ := (hookedMembers_eq_ok hpairs hconstant rest others).mp hothers
      exact ⟨List.forall_mem_cons.mpr ⟨hstrict, hall⟩, Except.ok.inj hresults⟩
    · rintro ⟨hall, rfl⟩
      obtain ⟨hstrict, hrest⟩ := List.forall_mem_cons.mp hall
      refine ⟨member.2, (hooked_eq_ok hpairs hconstant member.2 member.2).mpr ⟨hstrict, rfl⟩, ?_⟩
      rw [(hookedMembers_eq_ok hpairs hconstant rest rest).mpr ⟨hrest, rfl⟩, ok_bind]

end

end

end RawJson

end AegisOt
