import SdkBlueprint.Proofs.Services.Catalog

/-! Collisions of method names. A name that is taken is told apart by a number, and the search for
it goes from two on; it ends at the least number whose name is free, and no later than one past the
number of operations there are. -/
namespace SdkBlueprint.Services

/-- From a number on the search ends with another one: a number whose name is taken is passed
over. -/
inductive Search (taken : List String) (name : String) : Nat → Nat → Prop
  | stop {n} (free : numbered name n ∉ taken) : Search taken name n n
  | next {n k} (held : numbered name n ∈ taken) (rest : Search taken name (n + 1) k) :
      Search taken name n k

section

variable {taken : List String} {name : String} {n k : Nat}

theorem Search.least (h : Search taken name n k) : LeastFree taken name n k := by
  induction h with
  | stop free => exact ⟨Nat.le_refl _, free, fun i after before => absurd before (by omega)⟩
  | next held rest ih =>
      refine ⟨Nat.le_of_succ_le ih.after, ih.free, fun i after before => ?_⟩
      rcases Nat.eq_or_lt_of_le after with rfl | later
      · exact held
      · exact ih.held i later before

theorem LeastFree.search (h : LeastFree taken name n k) : Search taken name n k := by
  -- The induction is on how far the search has to go.
  obtain ⟨steps, rfl⟩ := Nat.exists_eq_add_of_le h.after
  induction steps generalizing n with
  | zero => exact .stop h.free
  | succ steps ih =>
      have onward : n + (steps + 1) = n + 1 + steps := by omega
      refine .next (h.held n (Nat.le_refl n) (by omega)) ?_
      rw [onward] at h ⊢
      exact ih ⟨by omega, h.free, fun i after before => h.held i (by omega) before⟩

end

theorem collision?_of_free (service : String) {held : Table Operation} {o : Operation}
    (free : o.methodName ∉ methodNames held) : collision? service held o = none := by
  have nobody : held.values.find? (fun h => h.methodName == o.methodName) = none :=
    List.find?_eq_none.mpr fun h member same =>
      free (List.mem_map.mpr ⟨h, member, beq_iff_eq.mp same⟩)
  rw [collision?, nobody, Option.map_none]

theorem collision?_of_taken (service : String) {held : Table Operation} {o : Operation}
    (taken : o.methodName ∈ methodNames held) :
    ∃ holder ∈ held.values, holder.methodName = o.methodName ∧
      collision? service held o = some (.finding .services ⟨.methodCollision, .warning,
        collisionMessage service o.methodName holder.operationId o.operationId
          (settled held o).methodName, some o.operationId⟩) := by
  obtain ⟨other, member, same⟩ := List.mem_map.mp taken
  have known : (held.values.find? fun h => h.methodName == o.methodName).isSome :=
    List.find?_isSome.mpr ⟨other, member, beq_iff_eq.mpr same⟩
  obtain ⟨holder, found⟩ := Option.isSome_iff_exists.mp known
  refine ⟨holder, List.mem_of_find?_eq_some found, ?_, ?_⟩
  · simpa using List.find?_some found
  · rw [collision?, found, Option.map_some]

theorem collisionMessage_holds (service name holder newcomer renamed : String) :
    Text.Holds (collisionMessage service name holder newcomer renamed) holder ∧
      Text.Holds (collisionMessage service name holder newcomer renamed) newcomer := by
  unfold collisionMessage
  exact ⟨(Text.Holds.last _ holder).append _ |>.append _ |>.append _ |>.append _ |>.append _,
    (Text.Holds.last _ newcomer).append _ |>.append _ |>.append _⟩

/-- A new operation is stored under its own name if that is free. If it is taken, the search for a
number ends, with the least one from two on whose name is free; it is at most one more than the
number of operations there are. Then, and only then, a warning names the operation that holds the
name, which is the only one if the names are distinct, and the new one. -/
theorem collision_numbers_least (service : String) (c : Catalog) (o : Operation) (j : Journal) :
    let held := c.operations service
    ∃ name entries,
      (Catalog.register service c o).run j =
        (.ok (c.put service (held.put (o.operationId ++ ":" ++ name) { o with methodName := name })),
          j ++ entries) ∧
      (o.methodName ∉ methodNames held → name = o.methodName ∧ entries = []) ∧
      (o.methodName ∈ methodNames held → ∃ k, name = numbered o.methodName k ∧
        Search (methodNames held) o.methodName 2 k ∧ 2 ≤ k ∧ k ≤ held.size + 1 ∧
        name ∉ methodNames held ∧
        (∀ i, 2 ≤ i → i < k → numbered o.methodName i ∈ methodNames held) ∧
        ∃ holder ∈ held.values, holder.methodName = o.methodName ∧
          ((methodNames held).Nodup →
            ∀ other ∈ held.values, other.methodName = o.methodName → other = holder) ∧
          ∃ message, entries = [.finding .services ⟨.methodCollision, .warning, message,
              some o.operationId⟩] ∧
            message = collisionMessage service o.methodName holder.operationId o.operationId name ∧
            Text.Holds message holder.operationId ∧ Text.Holds message o.operationId) := by
  intro held
  refine ⟨(settled held o).methodName, (collision? service held o).toList,
    register_run service c o j, fun free => ⟨?_, ?_⟩, fun taken => ?_⟩
  · by_contra renamed
    exact free ((settled_renamed held o).mp renamed)
  · rw [collision?_of_free service free]
    rfl
  · obtain ⟨least, bound⟩ := freeNumber_least taken
    have named : (settled held o).methodName =
        numbered o.methodName (freeNumber (methodNames held) o.methodName) :=
      if_pos (List.contains_iff_mem.mpr taken)
    have size : (methodNames held).length = held.size := by
      rw [methodNames, Table.values, List.length_map, List.length_map, Table.size]
    obtain ⟨holder, member, holds, warned⟩ := collision?_of_taken service taken
    refine ⟨_, named, least.search, least.after, size ▸ bound, named ▸ least.free, least.held, holder,
      member, holds, fun distinct other there same => ?_, _, by rw [warned]; rfl, rfl,
      collisionMessage_holds ..⟩
    exact List.inj_on_of_nodup_map distinct there member (same.trans holds.symm)

/-- A method without parameters that returns nothing. -/
def bareOperation (operationId methodName : String) : Operation :=
  { operationId, methodName, path := "/pets", method := .get, parameters := [],
    returnType := .void, summary := none, description := none, deprecated := false,
    requestContentType := none, acceptHeader := none, responseKind := none }

/-- A service whose second method has the name that the number two would give to another one. -/
def numberedCatalog : Catalog :=
  Table.empty.put "PetService"
    (((Table.empty.put "listPets:list" (bareOperation "listPets" "list")).put "list2:list_2"
      (bareOperation "list2" "list_2")))

/-- The number two is passed over, since the name with it is taken by a name of its own. -/
theorem collision_numbers_numberedCatalog :
    "list" ∈ methodNames (numberedCatalog.operations "PetService") ∧
      ∃ c, (Catalog.register "PetService" numberedCatalog (bareOperation "listAll" "list")).run [] =
        (.ok c, [.finding .services ⟨.methodCollision, .warning,
          "Operation collision in service 'PetService': method 'list' of 'listPets' already exists; " ++
            "'listAll' renamed to 'list_3'.", some "listAll"⟩]) ∧
        methodNames (c.operations "PetService") = ["list", "list_2", "list_3"] := by
  have taken : "list" ∈ methodNames (numberedCatalog.operations "PetService") := by decide
  obtain ⟨name, entries, run, -, numbers⟩ := collision_numbers_least "PetService" numberedCatalog
    (bareOperation "listAll" "list") []
  obtain ⟨k, rfl, -, two, bound, free, -, holder, member, holds, only, _, rfl, rfl, -⟩ := numbers taken
  have three : k = 3 := by
    refine Nat.le_antisymm bound (Nat.lt_of_le_of_ne two fun same => free ?_)
    rw [← same]
    decide
  subst three
  have first : bareOperation "listPets" "list" = holder :=
    only (by decide) _ (List.mem_cons_self ..) rfl
  have told : collisionMessage "PetService" "list" "listPets" "listAll" "list_3" =
      "Operation collision in service 'PetService': method 'list' of 'listPets' already exists; " ++
        "'listAll' renamed to 'list_3'." := by
    decide +kernel
  rw [run, ← first, ← told]
  exact ⟨taken, _, rfl, rfl⟩

end SdkBlueprint.Services
