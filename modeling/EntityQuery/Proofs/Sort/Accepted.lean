import EntityQuery.Proofs.Sort.Appended
import EntityQuery.Proofs.Sort.Canonical
import EntityQuery.Proofs.Sort.Order
import EntityQuery.Proofs.Visibility

namespace EntityQuery

variable {schema : Schema} {model : Model} {ignoreCase : Bool}
  {tokens : List (String × SortDirection)}

/-- The values that a field with a value can have are of one kind, but for nulls. -/
theorem Value.SameKind.of_fits {field : Field} {a b : Value} (ha : a = .null ∨ Fits schema field a)
    (hb : b = .null ∨ Fits schema field b) (hscalar : field.kind.isScalar = true) :
    SameKind a b := by
  rcases ha with rfl | ha
  · exact .nullLeft b
  rcases hb with rfl | hb
  · exact .nullRight a
  cases ha with
  | null _ => exact .nullLeft b
  | value ha =>
    cases hb with
    | null _ => exact .nullRight a
    | value hb =>
      generalize field.kind = kind at ha hb hscalar
      cases ha with
      | navigation _ | collection _ => cases hscalar
      | _ =>
        cases hb
        constructor

namespace CompiledSort

variable {sort : CompiledSort} {keys : List (Access × SortDirection)}

/-- Whether all keys lead along sortable fields to values. -/
def KeysReach (schema : Schema) (model : Model) (keys : List (Access × SortDirection)) : Prop :=
  ∀ key ∈ keys, ∃ field, key.1.Reaches schema (·.sortable) model field ∧ field.kind.isScalar = true

private theorem sameKind_of_rows (hkeys : KeysReach schema model keys) {first second : Entity}
    (hfirst : Conforms schema model first) (hsecond : Conforms schema model second)
    {row other : List Value}
    (hrow : List.Forall₂ (fun key value => key.1.resolve first true = .ok value) keys row)
    (hother : List.Forall₂ (fun key value => key.1.resolve second true = .ok value) keys other) :
    List.Forall₂ Value.SameKind row other := by
  induction hrow generalizing other with
  | nil =>
    cases hother
    exact .nil
  | cons hvalue _ ih =>
    obtain ⟨⟨field, hreaches, hscalar⟩, hrest⟩ := List.forall_mem_cons.mp hkeys
    cases hother with
    | cons hvalue' hother =>
      obtain ⟨value, hread, hfits⟩ := hreaches.resolve_fits hfirst
      obtain ⟨value', hread', hfits'⟩ := hreaches.resolve_fits hsecond
      cases hvalue.symm.trans hread
      cases hvalue'.symm.trans hread'
      exact .cons (.of_fits hfits hfits' hscalar) (ih hrest hother)

/-- The rows of conforming entities can be read, and their values are of one kind in each
    column. -/
theorem exists_uniform_rows {α : Type} [AsEntity α] {items : List α}
    (hguarded : sort.guarded = true) (hkeys : KeysReach schema model sort.keys)
    (hconforms : ∀ item ∈ items, Conforms schema model (entity item)) :
    ∃ rows, List.Forall₂ (fun item row => sort.row (entity item) = .ok row) items rows ∧
      Uniform rows := by
  have hread : ∀ item ∈ items, ∃ row, sort.row (entity item) = .ok row := by
    intro item hitem
    rw [row, hguarded, exists_mapM_eq_ok_iff]
    intro key hkey
    obtain ⟨field, hreaches, -⟩ := hkeys key hkey
    obtain ⟨value, hvalue, -⟩ := hreaches.resolve_fits (hconforms item hitem)
    exact ⟨value, hvalue⟩
  obtain ⟨rows, hrows⟩ := exists_mapM_eq_ok_iff.mpr hread
  have hmatch := mapM_eq_ok_iff.mp hrows
  refine ⟨rows, hmatch, fun first hfirst second hsecond => ?_⟩
  obtain ⟨item, hitem, hrow⟩ := exists_of_forall₂_mem hmatch hfirst
  obtain ⟨other, hother, hrow'⟩ := exists_of_forall₂_mem hmatch hsecond
  rw [row, hguarded, mapM_eq_ok_iff] at hrow hrow'
  exact sameKind_of_rows hkeys (hconforms item hitem) (hconforms other hother) hrow hrow'

end CompiledSort

namespace SortPath

/-- The tokens whose paths lead to a sortable value, in their order and with the ways that the
    paths lead. -/
def retained (schema : Schema) (model : Model) (ignoreCase guardsTree : Bool)
    (tokens : List (String × SortDirection)) : List (Access × SortDirection) :=
  tokens.filterMap fun token =>
    match resolve schema model token.1 ignoreCase guardsTree with
    | .ok access => some (access, token.2)
    | .error _ => none

/-- The token that a kept token is stored as, with the names of fields in its path. -/
def stored (key : Access × SortDirection) : String × SortDirection := (key.1.path, key.2)

/-- The path that is stored for a path, which names fields as they are. There is none if the path
    does not lead to a sortable value. -/
def stored? (schema : Schema) (model : Model) (ignoreCase : Bool) (path : String) : Option String :=
  match resolve schema model path ignoreCase false with
  | .ok access => some access.path
  | .error _ => none

/-- The paths that tokens are stored with lead the same ways as the tokens' own paths, whether or
    not letter case is told apart then. -/
theorem resolve_retained (schema : Schema)
    (hnames : ∀ field ∈ model.fields, field.name ≠ SortKey.pathToSelf)
    (ignoreCase otherCase guardsTree : Bool) (tokens : List (String × SortDirection)) :
    List.Forall₂
      (fun kept key => resolve schema model kept.1 otherCase guardsTree = .ok key.1 ∧
        kept.2 = key.2)
      ((retained schema model ignoreCase false tokens).map stored)
      (retained schema model ignoreCase guardsTree tokens) := by
  induction tokens with
  | nil => exact .nil
  | cons token rest ih =>
    rw [retained, retained, List.filterMap_cons, List.filterMap_cons]
    cases hkept : resolve schema model token.1 ignoreCase false with
    | ok access =>
      obtain ⟨found, hfound, hagain⟩ := resolve_path hnames hkept otherCase guardsTree
      rw [hfound]
      exact .cons ⟨hagain, rfl⟩ ih
    | error _ =>
      cases hfound : resolve schema model token.1 ignoreCase guardsTree with
      | error _ => exact ih
      | ok access =>
        obtain ⟨found, hfound, -⟩ := resolve_path hnames hfound ignoreCase false
        cases hkept.symm.trans hfound

end SortPath

namespace EntitySort

variable {sort accepted : EntitySort model} {current : SortSettings} {raw : String}

/-- The keys that a text adds: those whose paths lead to a sortable value. -/
def tokensOfSyntax (schema : Schema) (sort : EntitySort model) (current : SortSettings)
    (raw : String) : List (String × SortDirection) :=
  let settings := sort.effectiveSettings current
  (SortPath.retained schema model settings.ignorePropertyNameCase false
    (SortKey.ofSyntax settings raw)).map SortPath.stored

theorem addSyntax?_eq_foldlM (schema : Schema) (sort : EntitySort model) (current : SortSettings)
    (raw : String) : sort.addSyntax? schema current raw =
      (sort.tokensOfSyntax schema current raw).foldlM
        (fun sort token => sort.add? token.1 token.2) sort := by
  rw [addSyntax?, tokensOfSyntax, SortPath.retained, List.map_filterMap, List.foldlM_filterMap]
  generalize (sort.effectiveSettings current).ignorePropertyNameCase = ignoreCase
  refine congrArg (List.foldlM · sort _) (funext fun sort => funext fun token => ?_)
  dsimp only
  cases SortPath.resolve schema model token.1 ignoreCase false <;> rfl

theorem tokensOf_addSyntax? (h : sort.addSyntax? schema current raw = some accepted) :
    tokensOf accepted.keys = tokensOf sort.keys ++ sort.tokensOfSyntax schema current raw :=
  tokensOf_of_foldlM_add? (addSyntax?_eq_foldlM schema sort current raw ▸ h)

private theorem length_splitOn_le (c : Char) (text : List Char) :
    (text.splitOn c).length ≤ text.length + 1 := by
  rw [List.splitOn_eq_splitOnP]
  induction text with
  | nil => simp
  | cons d rest ih =>
    rw [List.splitOnP_cons_eq_if_modifyHead, List.length_cons]
    split
    · exact Nat.succ_le_succ ih
    · rw [List.length_modifyHead]
      exact Nat.le_succ_of_le ih

/-- A text adds at most one key more than it has characters. -/
theorem length_tokensOfSyntax_le (schema : Schema) (sort : EntitySort model)
    (current : SortSettings) (raw : String) :
    (sort.tokensOfSyntax schema current raw).length ≤ raw.toList.length + 1 := by
  rw [tokensOfSyntax, List.length_map]
  refine (List.length_filterMap_le _ _).trans ((List.length_filterMap_le _ _).trans ?_)
  refine (List.length_filter_le _ _).trans ?_
  rw [List.length_map]
  exact length_splitOn_le ',' raw.toList

/-- There are positions for all keys of a text whose number of bytes fits in 64 bits. -/
theorem exists_addSyntax? (hsort : sort.stored = []) (hraw : raw.utf8ByteSize < UInt64.size)
    (schema : Schema) (current : SortSettings) :
    ∃ accepted, sort.addSyntax? schema current raw = some accepted := by
  simp only [addSyntax?_eq_foldlM]
  refine exists_foldlM_add?_iff.mpr ⟨?_, by simp [hsort]⟩
  have hkeys := length_tokensOfSyntax_le schema sort current raw
  have hbytes := Text.length_le_utf8ByteSize raw
  omega

/-- A sort that has the keys of another one under other paths, or leaves them out, has them in their
    order. -/
theorem tokensOf_rename {target : Model} {sort : EntitySort model} {renamed : EntitySort target}
    {rename : String → Option String}
    (hstored : renamed.stored = sort.stored.filterMap fun key =>
      (rename key.path).map fun path => { key with path }) :
    tokensOf renamed.keys = (tokensOf sort.keys).filterMap fun token =>
      (rename token.1).map fun path => (path, token.2) := by
  have hkeys : renamed.keys = sort.keys.filterMap fun key =>
      (rename key.path).map fun path => { key with path } := by
    -- No position changes, so it makes no difference whether the keys are sorted before.
    rw [keys, hstored]
    refine StableSort.sort_filterMap ordersByRank_position (fun {x y x' y'} hx hy => ?_) sort.stored
    obtain ⟨_, _, rfl⟩ := Option.map_eq_some_iff.mp hx
    obtain ⟨_, _, rfl⟩ := Option.map_eq_some_iff.mp hy
    rfl
  rw [hkeys, tokensOf, tokensOf, List.map_filterMap, List.filterMap_map]
  refine List.filterMap_congr fun key _ => ?_
  rw [Option.map_map]
  rfl

theorem stored_cast (schema : Schema) (sort : EntitySort model) (current : SortSettings)
    (target : Model) :
    (sort.cast schema current target).stored = sort.stored.filterMap fun key =>
      (SortPath.stored? schema target (sort.effectiveSettings current).ignorePropertyNameCase
        key.path).map fun path => { key with path } := by
  refine List.filterMap_congr fun key _ => ?_
  rw [SortPath.stored?]
  cases SortPath.resolve schema target key.path
    (sort.effectiveSettings current).ignorePropertyNameCase false <;> rfl

theorem tokensOf_cast (schema : Schema) (sort : EntitySort model) (current : SortSettings)
    (target : Model) :
    tokensOf (sort.cast schema current target).keys =
      (SortPath.retained schema target (sort.effectiveSettings current).ignorePropertyNameCase false
        (tokensOf sort.keys)).map SortPath.stored := by
  rw [tokensOf_rename (stored_cast schema sort current target), SortPath.retained,
    List.map_filterMap]
  refine List.filterMap_congr fun token _ => ?_
  rw [SortPath.stored?]
  cases SortPath.resolve schema target token.1
    (sort.effectiveSettings current).ignorePropertyNameCase false <;> rfl

/-- Keys that are tokens as they are stored compile to the ways of these tokens. -/
theorem compileWith_of_tokensOf {sort : EntitySort model}
    (hnames : ∀ field ∈ model.fields, field.name ≠ SortKey.pathToSelf)
    (hkeys : tokensOf sort.keys =
      (SortPath.retained schema model ignoreCase false tokens).map SortPath.stored)
    (settings : SortSettings) :
    sort.compileWith schema settings = .ok
      ⟨SortPath.retained schema model ignoreCase settings.conditionalAccess.guardsTree tokens,
        settings.conditionalAccess.guardsEvaluation⟩ := by
  have hpaths := SortPath.resolve_retained schema hnames ignoreCase
    settings.ignorePropertyNameCase settings.conditionalAccess.guardsTree tokens
  rw [← hkeys, tokensOf, List.forall₂_map_left_iff] at hpaths
  have hread : sort.keys.mapM (fun key => do
      let access ← SortPath.resolve schema model key.path settings.ignorePropertyNameCase
        settings.conditionalAccess.guardsTree
      return (access, key.direction)) = .ok
        (SortPath.retained schema model ignoreCase settings.conditionalAccess.guardsTree
          tokens) := by
    refine mapM_eq_ok_iff.mpr (hpaths.imp fun key kept hkey => ?_)
    obtain ⟨hresolve, hdirection⟩ := hkey
    rw [hresolve, show key.direction = kept.2 from hdirection]
    rfl
  rw [compileWith, hread]
  rfl

end EntitySort

/-- A sort that suits a type of entities. Its keys lead along sortable fields to values, and if it
    is guarded, it can order all entities that conform to the type, whose rows have values of one
    kind in each column. -/
structure CompiledSort.Suits (schema : Schema) (model : Model) (sort : CompiledSort) : Prop where
  reaches : KeysReach schema model sort.keys
  orders : sort.guarded = true → ∀ {α : Type} [AsEntity α] (items : List α),
    (∀ item ∈ items, Conforms schema model (entity item)) →
      (∃ order, sort.order items = .ok order) ∧
      ∃ rows, List.Forall₂ (fun item row => sort.row (entity item) = .ok row) items rows ∧
        Uniform rows

theorem CompiledSort.suits_of_keysReach {sort : CompiledSort}
    (hkeys : KeysReach schema model sort.keys) : sort.Suits schema model := by
  refine ⟨hkeys, fun hguarded α _ items hconforms => ?_⟩
  obtain ⟨rows, hrows, huniform⟩ := exists_uniform_rows hguarded hkeys hconforms
  refine ⟨?_, rows, hrows, huniform⟩
  by_cases hempty : sort.keys = []
  · exact ⟨_, order_of_keys_eq_nil hempty items⟩
  · exact ⟨_, order_of_rows hempty hrows⟩

/-- A sort compiles to given keys, guarded as the settings say, and suits its type of entities. -/
def EntitySort.CompilesTo (schema : Schema) (sort : EntitySort model) (settings : SortSettings)
    (keys : List (Access × SortDirection)) : Prop :=
  ∃ compiled, sort.compileWith schema settings = .ok compiled ∧ compiled.keys = keys ∧
    compiled.guarded = settings.conditionalAccess.guardsEvaluation ∧ compiled.Suits schema model

theorem EntitySort.compilesTo_of_tokensOf {sort : EntitySort model}
    (hnames : ∀ field ∈ model.fields, field.name ≠ SortKey.pathToSelf)
    (hkeys : tokensOf sort.keys =
      (SortPath.retained schema model ignoreCase false tokens).map SortPath.stored)
    (settings : SortSettings) :
    sort.CompilesTo schema settings
      (SortPath.retained schema model ignoreCase settings.conditionalAccess.guardsTree tokens) := by
  have hcompiled := compileWith_of_tokensOf hnames hkeys settings
  exact ⟨_, hcompiled, rfl, rfl, CompiledSort.suits_of_keysReach (compileWith_reaches hcompiled)⟩

/-- What was accepted for a type of entities is compiled and sorts, as long as no field of the
    type is named like the path to an entity itself. An empty sort can be filled from every text
    whose number of bytes fits in 64 bits. A sort that was filled from a text under some settings
    compiles under any other settings to the tokens that were kept, in their order, and so does a
    sort that was cast to the type, whose keys are taken by position. -/
theorem EntitySort.accepted_compilesTo (schema : Schema) {model : Model}
    (hnames : ∀ field ∈ model.fields, field.name ≠ SortKey.pathToSelf)
    (current settings : SortSettings) :
    (∀ (sort : EntitySort model) (raw : String), sort.stored = [] →
      (raw.utf8ByteSize < UInt64.size →
        ∃ accepted, sort.addSyntax? schema current raw = some accepted) ∧
      ∀ accepted, sort.addSyntax? schema current raw = some accepted →
        accepted.CompilesTo schema settings
          (SortPath.retained schema model (sort.effectiveSettings current).ignorePropertyNameCase
            settings.conditionalAccess.guardsTree
            (SortKey.ofSyntax (sort.effectiveSettings current) raw))) ∧
    ∀ (source : Model) (sort : EntitySort source),
      (sort.cast schema current model).CompilesTo schema settings
        (SortPath.retained schema model (sort.effectiveSettings current).ignorePropertyNameCase
          settings.conditionalAccess.guardsTree (tokensOf sort.keys)) := by
  constructor
  · intro sort raw hsort
    refine ⟨fun hraw => exists_addSyntax? hsort hraw schema current, fun accepted haccepted => ?_⟩
    have hkeys : tokensOf accepted.keys = sort.tokensOfSyntax schema current raw := by
      rw [tokensOf_addSyntax? haccepted, keys, hsort]
      rfl
    exact compilesTo_of_tokensOf hnames hkeys settings
  · intro source sort
    exact compilesTo_of_tokensOf hnames (tokensOf_cast schema sort current model) settings

namespace Staff

/-- Settings under which letter case counts and paths carry their checks. -/
def strict : SortSettings :=
  { SortSettings.builtin with ignorePropertyNameCase := false, conditionalAccess := .always }

theorem worker_conforms (name : String) (amount : Int64) :
    Conforms Staff.schema employee (worker name amount) := by
  refine .intro fun field hfield => ?_
  simp only [employee, List.mem_cons, List.not_mem_nil, or_false] at hfield
  rcases hfield with rfl | rfl | rfl | rfl
  · exact .value (.text name)
  · exact .value (.int amount)
  · exact .null rfl
  · exact .value (.collection fun _ hitem => absurd hitem List.not_mem_nil)

theorem manager_conforms (name : String) (amount : Int64) :
    Conforms Staff.schema employee (manager name amount) := by
  refine .intro fun field hfield => ?_
  simp only [employee, List.mem_cons, List.not_mem_nil, or_false] at hfield
  rcases hfield with rfl | rfl | rfl | rfl
  · exact .value (.text name)
  · exact .value (.int amount)
  · exact .value (.navigation (worker_conforms "Ann" amount))
  · exact .value (.collection (List.forall_mem_singleton.mpr (worker_conforms "Bob" amount)))

/-- By the name of the boss from Z to A, and then by name. -/
def keys : List (Access × SortDirection) :=
  [(⟨[⟨"Boss", true⟩, ⟨"Name", false⟩]⟩, .descending), (⟨[⟨"Name", false⟩]⟩, .ascending)]

/-- Keys out of order, of which one is on pay and one leads nowhere. -/
def unchecked : EntitySort Teams.team :=
  ⟨[⟨"name", .ascending, 7⟩, ⟨"Pay", .ascending, 0⟩, ⟨" BOSS.name", .descending, 3⟩,
    ⟨"Leader", .ascending, 3⟩], none⟩

end Staff

/-- Paths in any letter case are accepted, and are then found with letter case told apart. -/
theorem EntitySort.accepted_compilesTo_staff :
    (∃ accepted, (empty : EntitySort Staff.employee).addSyntax? Staff.schema .builtin
      "-boss . NAME, pay, name asc,ghost" = some accepted ∧
        accepted.CompilesTo Staff.schema Staff.strict Staff.keys) ∧
    (Staff.unchecked.cast Staff.schema .builtin Staff.employee).CompilesTo Staff.schema Staff.strict
      Staff.keys ∧
    CompiledSort.Suits Staff.schema Staff.employee ⟨Staff.keys, true⟩ ∧
    CompiledSort.order ⟨Staff.keys, true⟩ [Staff.worker "Lee" 10, Staff.manager "Kim" 20] =
      .ok [1, 0] := by
  have hnames : ∀ field ∈ Staff.employee.fields, field.name ≠ SortKey.pathToSelf := by decide
  obtain ⟨htext, hcast⟩ :=
    accepted_compilesTo Staff.schema hnames SortSettings.builtin Staff.strict
  obtain ⟨hfits, hcompiles⟩ := htext empty "-boss . NAME, pay, name asc,ghost" rfl
  obtain ⟨accepted, haccepted⟩ := hfits (by decide)
  have hkeys := hcompiles accepted haccepted
  refine ⟨⟨accepted, haccepted, hkeys⟩, hcast Teams.team Staff.unchecked, ?_⟩
  obtain ⟨⟨keys, guarded⟩, -, rfl, rfl, hsuits⟩ := hkeys
  have hconforms : ∀ item ∈ [Staff.worker "Lee" 10, Staff.manager "Kim" 20],
      Conforms Staff.schema Staff.employee (entity item) :=
    List.forall_mem_cons.mpr ⟨Staff.worker_conforms "Lee" 10,
      List.forall_mem_singleton.mpr (Staff.manager_conforms "Kim" 20)⟩
  obtain ⟨⟨order, horder⟩, -⟩ := hsuits.orders rfl _ hconforms
  have hcomputed : order = [1, 0] := by
    cases horder
    rfl
  exact ⟨hsuits, hcomputed ▸ horder⟩

end EntityQuery
