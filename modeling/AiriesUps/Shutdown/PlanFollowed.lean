import AiriesUps.Lib.Sequences
import AiriesUps.Shutdown.PlanSecrecy

set_option autoImplicit false

namespace AiriesUps.Shutdown

def PlanStatement.inserts : PlanStatement → Bool
  | .insertTarget _ _ => true
  | _ => false

-- The new targets of a log; the last of them has this id.
def insertions (done : List PlanStatement) : Nat := done.countP PlanStatement.inserts

-- What one statement, run after so many insertions, writes to the target with this id.
def writtenTo (id inserted : Nat) : PlanStatement → List (TargetValues × Option String)
  | .insertTarget values credential => if inserted + 1 = id then [(values, some credential)] else []
  | .updateTarget other values credential => if other = id then [(values, credential)] else []
  | _ => []

def writesFrom (id inserted : Nat) : List PlanStatement → List (TargetValues × Option String)
  | [] => []
  | statement :: rest =>
    writtenTo id inserted statement ++ writesFrom id (inserted + insertions [statement]) rest

def writesTo (id : Nat) (done : List PlanStatement) : List (TargetValues × Option String) := writesFrom id 0 done

-- The values are those written last, and so is the credential, by whoever gave one.
structure AsTold (done : List PlanStatement) (row : TargetRow) : Prop where
  values : ((writesTo row.id done).map Prod.fst).getLast? = some row.values
  credential : ((writesTo row.id done).filterMap Prod.snd).getLast? = some row.credential

-- A target goes by its own deletion or, with foreign keys, with the group it was last put in.
def Removes (foreignKeys : Bool) (id : Nat) (before : List PlanStatement) : PlanStatement → Prop
  | .deleteTarget other => other = id
  | .deleteGroup group =>
    foreignKeys = true ∧ ((writesTo id before).map Prod.fst).getLast?.map TargetValues.groupId = some group
  | _ => False

def Removed (foreignKeys : Bool) (id : Nat) (done : List PlanStatement) : Prop :=
  ∃ before statement after,
    done = before ++ statement :: after ∧ id ≤ insertions before ∧ Removes foreignKeys id before statement

structure PlanFollowed (foreignKeys : Bool) (done : List PlanStatement) (db : PlanDb) (selected : List Target) : Prop where
  each : selected.Perm ((db.targets.filter fun row => db.hasGroup row.values.groupId).map TargetRow.target)
  grouped : foreignKeys = true → ∀ row ∈ db.targets, db.hasGroup row.values.groupId = true
  distinct : (db.targets.map TargetRow.id).Nodup
  told : ∀ row ∈ db.targets, AsTold done row
  present : ∀ id, (∃ row ∈ db.targets, row.id = id) ↔ 0 < id ∧ id ≤ insertions done ∧ ¬Removed foreignKeys id done

theorem insertions_append (done more : List PlanStatement) : insertions (done ++ more) = insertions done + insertions more :=
  List.countP_append

theorem writes_from_append (id inserted : Nat) (done more : List PlanStatement) :
    writesFrom id inserted (done ++ more) = writesFrom id inserted done ++ writesFrom id (inserted + insertions done) more := by
  induction done generalizing inserted with
  | nil => rfl
  | cons statement rest ih =>
    have count : insertions (statement :: rest) = insertions [statement] + insertions rest := insertions_append [statement] rest
    rw [List.cons_append, writesFrom, writesFrom, ih, count, List.append_assoc, Nat.add_assoc]

theorem writes_concat (id : Nat) (done : List PlanStatement) (statement : PlanStatement) :
    writesTo id (done ++ [statement]) = writesTo id done ++ writtenTo id (insertions done) statement := by
  rw [writesTo, writes_from_append, Nat.zero_add]
  simp [writesTo, writesFrom]

theorem removed_concat (foreignKeys : Bool) (id : Nat) (done : List PlanStatement) (statement : PlanStatement) :
    Removed foreignKeys id (done ++ [statement]) ↔
      Removed foreignKeys id done ∨ id ≤ insertions done ∧ Removes foreignKeys id done statement := by
  constructor
  · rintro ⟨before, removal, after, split, below, removes⟩
    rcases List.eq_nil_or_concat after with rfl | ⟨earlier, last, rfl⟩
    · obtain ⟨rfl, same⟩ := List.append_inj' split rfl
      cases same
      exact Or.inr ⟨below, removes⟩
    · have cut : done ++ [statement] = (before ++ removal :: earlier) ++ [last] := by rw [split]; simp
      obtain ⟨rfl, _⟩ := List.append_inj' cut rfl
      exact Or.inl ⟨before, removal, earlier, rfl, below, removes⟩
  · rintro (⟨before, removal, after, rfl, below, removes⟩ | ⟨below, removes⟩)
    · exact ⟨before, removal, after ++ [statement], by simp, below, removes⟩
    · exact ⟨done, statement, [], rfl, below, removes⟩

structure PlanKept (foreignKeys : Bool) (done : List PlanStatement) (db : PlanDb) : Prop where
  counted : db.lastTarget = insertions done
  inside : ∀ row ∈ db.targets, 0 < row.id ∧ row.id ≤ insertions done
  distinct : (db.targets.map TargetRow.id).Nodup
  told : ∀ row ∈ db.targets, AsTold done row
  present : ∀ id, 0 < id → id ≤ insertions done → ((∃ row ∈ db.targets, row.id = id) ↔ ¬Removed foreignKeys id done)
  groupInside : ∀ group ∈ db.groups, 0 < group.id ∧ group.id ≤ db.lastGroup
  groupsDistinct : (db.groups.map Group.id).Nodup
  referenced : foreignKeys = true → ∀ row ∈ db.targets, db.hasGroup row.values.groupId = true

theorem has_group_iff (db : PlanDb) (id : Int) : db.hasGroup id = true ↔ ∃ group ∈ db.groups, (group.id : Int) = id := by
  simp [PlanDb.hasGroup]

theorem plan_kept_empty (foreignKeys : Bool) : PlanKept foreignKeys [] .empty := by
  refine ⟨rfl, ?_, .nil, ?_, fun id positive below => absurd below (Nat.not_le.mpr positive), ?_, .nil, fun _ => ?_⟩ <;>
    exact fun _ member => by cases member

theorem removed_inside (foreignKeys : Bool) (id : Nat) (done : List PlanStatement) (removed : Removed foreignKeys id done) :
    id ≤ insertions done := by
  obtain ⟨before, statement, after, rfl, below, _⟩ := removed
  rw [insertions_append]
  omega

theorem present_concat (foreignKeys : Bool) (id : Nat) (done : List PlanStatement) (statement : PlanStatement)
    (below : id ≤ insertions done) :
    ¬Removed foreignKeys id (done ++ [statement]) ↔ ¬Removed foreignKeys id done ∧ ¬Removes foreignKeys id done statement := by
  rw [removed_concat, not_or, not_and]
  exact and_congr_right fun _ => ⟨fun kept => kept below, fun kept _ => kept⟩

-- What a statement does not write stays as it was told.
theorem told_untouched (done : List PlanStatement) (statement : PlanStatement) (row : TargetRow) (told : AsTold done row)
    (untouched : writtenTo row.id (insertions done) statement = []) : AsTold (done ++ [statement]) row := by
  have same : writesTo row.id (done ++ [statement]) = writesTo row.id done := by
    rw [writes_concat, untouched, List.append_nil]
  exact ⟨same ▸ told.values, same ▸ told.credential⟩

theorem told_group (done : List PlanStatement) (row : TargetRow) (told : AsTold done row) (group : Int) :
    ((writesTo row.id done).map Prod.fst).getLast?.map TargetValues.groupId = some group ↔ row.values.groupId = group := by
  rw [told.values, Option.map_some, Option.some.injEq]

theorem kept_groups (foreignKeys : Bool) (done : List PlanStatement) (db : PlanDb) (statement : PlanStatement)
    (groups : List Group) (lastGroup : Nat) (kept : PlanKept foreignKeys done db) (countless : insertions [statement] = 0)
    (untouched : ∀ id inserted, writtenTo id inserted statement = [])
    (removesNone : ∀ id, ¬Removes foreignKeys id done statement)
    (inside : ∀ group ∈ groups, 0 < group.id ∧ group.id ≤ lastGroup) (distinct : (groups.map Group.id).Nodup)
    (more : foreignKeys = true → ∀ id ∈ db.groups.map Group.id, id ∈ groups.map Group.id) :
    PlanKept foreignKeys (done ++ [statement]) { db with groups := groups, lastGroup := lastGroup } := by
  have count : insertions (done ++ [statement]) = insertions done := by rw [insertions_append, countless, Nat.add_zero]
  refine
    { counted := count ▸ kept.counted, inside := count ▸ kept.inside, distinct := kept.distinct
      told := fun row member => told_untouched done statement row (kept.told row member) (untouched _ _)
      present := fun id positive below => ?_, groupInside := inside, groupsDistinct := distinct
      referenced := fun enforced row member => ?_ }
  · rw [count] at below
    rw [present_concat foreignKeys id done statement below, and_iff_left (removesNone id)]
    exact kept.present id positive below
  · obtain ⟨group, present, same⟩ := (has_group_iff db _).mp (kept.referenced enforced row member)
    obtain ⟨other, here, equal⟩ := List.mem_map.mp (more enforced group.id (List.mem_map_of_mem present))
    exact (has_group_iff _ _).mpr ⟨other, here, equal ▸ same⟩

-- Targets are taken out exactly where the statement removes them.
theorem kept_removed (foreignKeys : Bool) (done : List PlanStatement) (db : PlanDb) (statement : PlanStatement)
    (groups : List Group) (stays : TargetRow → Bool) (kept : PlanKept foreignKeys done db)
    (countless : insertions [statement] = 0) (untouched : ∀ id inserted, writtenTo id inserted statement = [])
    (removes : ∀ row ∈ db.targets, stays row = true ↔ ¬Removes foreignKeys row.id done statement)
    (sublist : groups.Sublist db.groups)
    (referenced : foreignKeys = true → ∀ row ∈ db.targets, stays row = true →
      ∃ group ∈ groups, (group.id : Int) = row.values.groupId) :
    PlanKept foreignKeys (done ++ [statement]) { db with groups := groups, targets := db.targets.filter stays } := by
  have count : insertions (done ++ [statement]) = insertions done := by rw [insertions_append, countless, Nat.add_zero]
  refine
    { counted := count ▸ kept.counted, inside := fun row member => ?_
      distinct := kept.distinct.sublist (List.filter_sublist.map _), told := fun row member => ?_
      present := fun id positive below => ?_, groupInside := fun group member => kept.groupInside group (sublist.subset member)
      groupsDistinct := kept.groupsDistinct.sublist (sublist.map _), referenced := fun enforced row member => ?_ }
  · exact count ▸ kept.inside row (List.mem_filter.mp member).1
  · exact told_untouched done statement row (kept.told row (List.mem_filter.mp member).1) (untouched _ _)
  · rw [count] at below
    rw [present_concat foreignKeys id done statement below, ← kept.present id positive below]
    constructor
    · rintro ⟨row, member, rfl⟩
      obtain ⟨present, stayed⟩ := List.mem_filter.mp member
      exact ⟨⟨row, present, rfl⟩, (removes row present).mp stayed⟩
    · rintro ⟨⟨row, present, rfl⟩, spared⟩
      exact ⟨row, List.mem_filter.mpr ⟨present, (removes row present).mpr spared⟩, rfl⟩
  · obtain ⟨present, stayed⟩ := List.mem_filter.mp member
    exact (has_group_iff _ _).mpr (referenced enforced row present stayed)

theorem kept_insert_group (foreignKeys : Bool) (done : List PlanStatement) (db next : PlanDb) (values : GroupValues)
    (kept : PlanKept foreignKeys done db) (executed : db.execute foreignKeys (.insertGroup values) = some next) :
    PlanKept foreignKeys (done ++ [.insertGroup values]) next := by
  rw [PlanDb.execute] at executed
  split at executed
  · cases executed
  · cases executed
    refine kept_groups foreignKeys done db (.insertGroup values) _ _ kept rfl (fun _ _ => rfl) (fun _ removes => removes)
      (fun group member => ?_) ?_ fun _ id member => ?_
    · rcases List.mem_append.mp member with old | new
      · exact ⟨(kept.groupInside group old).1, Nat.le_succ_of_le (kept.groupInside group old).2⟩
      · exact (List.mem_singleton.mp new) ▸ ⟨Nat.succ_pos _, Nat.le_refl _⟩
    · rw [List.map_append, List.map_singleton]
      refine List.nodup_append.mpr ⟨kept.groupsDistinct, List.nodup_singleton _, fun old member new fresh => ?_⟩
      obtain ⟨group, present, rfl⟩ := List.mem_map.mp member
      rw [List.mem_singleton.mp fresh]
      exact Nat.ne_of_lt (Nat.lt_succ_of_le (kept.groupInside group present).2)
    · rw [List.map_append]
      exact List.mem_append_left _ member

theorem kept_update_group (foreignKeys : Bool) (done : List PlanStatement) (db next : PlanDb) (id : Int) (values : GroupValues)
    (kept : PlanKept foreignKeys done db) (executed : db.execute foreignKeys (.updateGroup id values) = some next) :
    PlanKept foreignKeys (done ++ [.updateGroup id values]) next := by
  rw [PlanDb.execute] at executed
  split at executed
  · cases executed
  · cases executed
    have ids : (db.groups.map fun group => if (group.id : Int) = id then values.row group.id else group).map Group.id =
        db.groups.map Group.id := by
      rw [List.map_map]
      refine List.map_congr_left fun group _ => ?_
      by_cases found : (group.id : Int) = id <;> simp [found, GroupValues.row]
    refine kept_groups foreignKeys done db (.updateGroup id values) _ _ kept rfl (fun _ _ => rfl) (fun _ removes => removes)
      (fun group member => ?_) ?_ fun _ other member => ?_
    · have named := List.mem_map_of_mem (f := Group.id) member
      rw [ids] at named
      obtain ⟨own, present, same⟩ := List.mem_map.mp named
      exact same ▸ kept.groupInside own present
    · exact ids ▸ kept.groupsDistinct
    · exact ids ▸ member

theorem kept_delete_group (foreignKeys : Bool) (done : List PlanStatement) (db next : PlanDb) (id : Int)
    (kept : PlanKept foreignKeys done db) (executed : db.execute foreignKeys (.deleteGroup id) = some next) :
    PlanKept foreignKeys (done ++ [.deleteGroup id]) next := by
  rw [PlanDb.execute] at executed
  cases foreignKeys with
  | false =>
    cases executed
    refine kept_groups false done db (.deleteGroup id) _ _ kept rfl (fun _ _ => rfl) (fun _ removes => ?_)
      (fun group member => kept.groupInside group (List.mem_filter.mp member).1) ?_ fun enforced => ?_
    · cases removes.1
    · exact kept.groupsDistinct.sublist (List.filter_sublist.map _)
    · cases enforced
  | true =>
    -- Without the group no target is in it, and the filter takes none out.
    have cascaded : (if (true && db.hasGroup id) = true then db.targets.filter fun row => row.values.groupId ≠ id
        else db.targets) = db.targets.filter fun row => row.values.groupId ≠ id := by
      split
      · rfl
      · rename_i missing
        refine (List.filter_eq_self.mpr fun row member => ?_).symm
        have grouped := kept.referenced rfl row member
        refine decide_eq_true fun same => missing ?_
        rw [same] at grouped
        exact grouped
    rw [cascaded] at executed
    cases executed
    refine kept_removed true done db (.deleteGroup id) _ _ kept rfl (fun _ _ => rfl) (fun row member => ?_)
      List.filter_sublist fun _ row member stays => ?_
    · rw [decide_eq_true_iff, Removes, and_iff_right rfl]
      exact not_congr (told_group done row (kept.told row member) id).symm
    · obtain ⟨group, present, same⟩ := (has_group_iff db _).mp (kept.referenced rfl row member)
      refine ⟨group, List.mem_filter.mpr ⟨present, decide_eq_true ?_⟩, same⟩
      exact same ▸ of_decide_eq_true stays

theorem kept_delete_target (foreignKeys : Bool) (done : List PlanStatement) (db next : PlanDb) (id : Int)
    (kept : PlanKept foreignKeys done db) (executed : db.execute foreignKeys (.deleteTarget id) = some next) :
    PlanKept foreignKeys (done ++ [.deleteTarget id]) next := by
  rw [PlanDb.execute] at executed
  cases executed
  refine kept_removed foreignKeys done db (.deleteTarget id) db.groups _ kept rfl (fun _ _ => rfl) (fun row member => ?_)
    (List.Sublist.refl _) fun enforced row member _ => (has_group_iff db _).mp (kept.referenced enforced row member)
  rw [decide_eq_true_iff]
  exact not_congr eq_comm

theorem kept_insert_target (foreignKeys : Bool) (done : List PlanStatement) (db next : PlanDb) (values : TargetValues)
    (credential : String) (kept : PlanKept foreignKeys done db)
    (executed : db.execute foreignKeys (.insertTarget values credential) = some next) :
    PlanKept foreignKeys (done ++ [.insertTarget values credential]) next := by
  rw [PlanDb.execute] at executed
  split at executed
  · cases executed
  rename_i grouped
  cases executed
  have count : insertions (done ++ [.insertTarget values credential]) = insertions done + 1 := insertions_append _ _
  have fresh : ∀ row ∈ db.targets, row.id ≠ db.lastTarget + 1 := by
    intro row member same
    have below := (kept.inside row member).2
    rw [← kept.counted] at below
    omega
  have newTold : AsTold (done ++ [.insertTarget values credential]) ⟨db.lastTarget + 1, values, credential⟩ := by
    constructor <;> simp [writes_concat, writtenTo, kept.counted]
  refine
    { counted := by rw [count, kept.counted], inside := fun row member => ?_, distinct := ?_, told := fun row member => ?_
      present := fun id positive below => ?_, groupInside := kept.groupInside, groupsDistinct := kept.groupsDistinct
      referenced := fun enforced row member => ?_ }
  · rcases List.mem_append.mp member with old | new
    · exact ⟨(kept.inside row old).1, count ▸ Nat.le_succ_of_le (kept.inside row old).2⟩
    · rw [List.mem_singleton.mp new, count, ← kept.counted]
      exact ⟨Nat.succ_pos _, Nat.le_refl _⟩
  · rw [List.map_append, List.map_singleton]
    refine List.nodup_append.mpr ⟨kept.distinct, List.nodup_singleton _, fun old member new added => ?_⟩
    obtain ⟨row, present, rfl⟩ := List.mem_map.mp member
    exact (List.mem_singleton.mp added) ▸ fresh row present
  · rcases List.mem_append.mp member with old | new
    · refine told_untouched done _ row (kept.told row old) ?_
      rw [writtenTo, if_neg]
      exact fun same => fresh row old (by rw [kept.counted, same])
    · exact (List.mem_singleton.mp new) ▸ newTold
  · by_cases new : id = db.lastTarget + 1
    · refine iff_of_true ⟨_, List.mem_append_right _ (List.mem_singleton_self _), new.symm⟩ fun removed => ?_
      rcases (removed_concat foreignKeys id done _).mp removed with earlier | ⟨_, removes⟩
      · have inside := removed_inside foreignKeys id done earlier
        rw [new, kept.counted] at inside
        omega
      · exact removes
    · have earlier : id ≤ insertions done := by
        rw [count, ← kept.counted] at below
        rw [← kept.counted]
        omega
      rw [present_concat foreignKeys id done _ earlier, and_iff_left (by exact fun removes => removes), ← kept.present id positive earlier]
      refine exists_congr fun row => and_congr_left fun same => ?_
      rw [List.mem_append, or_iff_left]
      exact fun added => new (by rw [← same, List.mem_singleton.mp added])
  · rcases List.mem_append.mp member with old | added
    · exact kept.referenced enforced row old
    · have present : db.hasGroup values.groupId = true := by simpa [enforced] using grouped
      rw [List.mem_singleton.mp added]
      exact present

theorem kept_update_target (foreignKeys : Bool) (done : List PlanStatement) (db next : PlanDb) (id : Int)
    (values : TargetValues) (credential : Option String) (kept : PlanKept foreignKeys done db)
    (executed : db.execute foreignKeys (.updateTarget id values credential) = some next) :
    PlanKept foreignKeys (done ++ [.updateTarget id values credential]) next := by
  rw [PlanDb.execute] at executed
  split at executed
  · cases executed
  rename_i allowed
  cases executed
  have count : insertions (done ++ [.updateTarget id values credential]) = insertions done := insertions_append _ _
  have ids : (db.targets.map fun row => if (row.id : Int) = id then row.update values credential else row).map TargetRow.id =
      db.targets.map TargetRow.id := by
    rw [List.map_map]
    refine List.map_congr_left fun row _ => ?_
    by_cases found : (row.id : Int) = id <;> simp [found, TargetRow.update]
  have member_ids : ∀ own, (∃ row ∈ db.targets.map fun row => if (row.id : Int) = id then row.update values credential else row,
      row.id = own) ↔ ∃ row ∈ db.targets, row.id = own := by
    intro own
    rw [← List.mem_map, ids, List.mem_map]
  refine
    { counted := count ▸ kept.counted, inside := fun row member => ?_, distinct := ids ▸ kept.distinct
      told := fun row member => ?_, present := fun own positive below => ?_, groupInside := kept.groupInside
      groupsDistinct := kept.groupsDistinct, referenced := fun enforced row member => ?_ }
  · obtain ⟨old, present, same⟩ := (member_ids row.id).mp ⟨row, member, rfl⟩
    exact count ▸ same ▸ kept.inside old present
  · obtain ⟨old, present, rfl⟩ := List.mem_map.mp member
    have told := kept.told old present
    by_cases found : (old.id : Int) = id
    · rw [if_pos found]
      have written : writesTo old.id (done ++ [.updateTarget id values credential]) = writesTo old.id done ++ [(values, credential)] := by
        rw [writes_concat, writtenTo, if_pos found.symm]
      refine ⟨by simp [TargetRow.update, written], ?_⟩
      cases credential with
      | none => simpa [TargetRow.update, written] using told.credential
      | some given => simp [TargetRow.update, written]
    · rw [if_neg found]
      exact told_untouched done _ old told (if_neg (Ne.symm found))
  · rw [count] at below
    rw [member_ids, present_concat foreignKeys own done _ below, and_iff_left (by exact fun removes => removes)]
    exact kept.present own positive below
  · obtain ⟨old, present, rfl⟩ := List.mem_map.mp member
    have referenced := kept.referenced enforced old present
    by_cases found : (old.id : Int) = id
    · rw [if_pos found]
      cases grouped : db.hasGroup values.groupId with
      | true => exact grouped
      | false =>
        have same : old.values.groupId = values.groupId := by
          by_contra moved
          exact allowed ⟨by rw [grouped, enforced]; rfl, old, present, found, moved⟩
        rw [same, grouped] at referenced
        cases referenced
    · rw [if_neg found]
      exact referenced

theorem kept_execute (foreignKeys : Bool) (done : List PlanStatement) (db next : PlanDb) (statement : PlanStatement)
    (kept : PlanKept foreignKeys done db) (executed : db.execute foreignKeys statement = some next) :
    PlanKept foreignKeys (done ++ [statement]) next := by
  cases statement with
  | insertGroup values => exact kept_insert_group foreignKeys done db next values kept executed
  | updateGroup id values => exact kept_update_group foreignKeys done db next id values kept executed
  | deleteGroup id => exact kept_delete_group foreignKeys done db next id kept executed
  | insertTarget values credential => exact kept_insert_target foreignKeys done db next values credential kept executed
  | updateTarget id values credential => exact kept_update_target foreignKeys done db next id values credential kept executed
  | deleteTarget id => exact kept_delete_target foreignKeys done db next id kept executed

-- A call runs one statement, or leaves the tables alone.
theorem write_cases (foreignKeys : Bool) (state : PlanState) (call : PlanCall) (statement : Checked PlanStatement)
    (failed : String) (reply : PlanReply) :
    (∃ added db, state.db.execute foreignKeys added = some db ∧ (state.write foreignKeys call statement failed reply).db = db ∧
        (state.write foreignKeys call statement failed reply).done = state.done ++ [added]) ∨
      (state.write foreignKeys call statement failed reply).db = state.db ∧
        (state.write foreignKeys call statement failed reply).done = state.done := by
  cases statement with
  | error error => exact Or.inr ⟨rfl, rfl⟩
  | ok statement =>
    rw [PlanState.write]
    cases call.succeeds with
    | false => exact Or.inr ⟨rfl, rfl⟩
    | true =>
      simp only [if_true]
      cases executed : state.db.execute foreignKeys statement with
      | none => exact Or.inr ⟨rfl, rfl⟩
      | some db => exact Or.inl ⟨statement, db, executed, rfl, rfl⟩

theorem read_keeps {Row : Type} [DecidableEq Row] (state next : PlanState) (call : PlanCall) (rows stored : List Row)
    (sorted : Bool) (failed : String) (reply : PlanReply) (taken : state.read call rows stored sorted failed reply = some next) :
    next.db = state.db ∧ next.done = state.done := by
  rw [PlanState.read] at taken
  split at taken
  · cases taken
    exact ⟨rfl, rfl⟩
  · split at taken
    · cases taken
      exact ⟨rfl, rfl⟩
    · cases taken

theorem kept_step (foreignKeys : Bool) (state next : PlanState) (call : PlanCall)
    (kept : PlanKept foreignKeys state.done state.db) (taken : state.step foreignKeys call = some next) :
    PlanKept foreignKeys next.done next.db := by
  have written : ∀ statement failed reply, some (state.write foreignKeys call statement failed reply) = some next →
      PlanKept foreignKeys next.done next.db := by
    intro statement failed reply taken
    cases taken
    rcases write_cases foreignKeys state call statement failed reply with ⟨added, db, executed, stored, logged⟩ | ⟨stored, logged⟩
    · rw [stored, logged]
      exact kept_execute foreignKeys state.done state.db db added kept executed
    · rw [stored, logged]
      exact kept
  have read : next.db = state.db ∧ next.done = state.done → PlanKept foreignKeys next.done next.db := by
    rintro ⟨stored, logged⟩
    rw [stored, logged]
    exact kept
  rw [PlanState.step] at taken
  cases requested : call.request with
  | groupsGet rows => exact read (read_keeps state next call rows _ _ _ _ (by simpa only [requested] using taken))
  | targetsGet rows => exact read (read_keeps state next call rows _ _ _ _ (by simpa only [requested] using taken))
  | groupsPost body => exact written _ _ _ (by simpa only [requested] using taken)
  | groupsPut body => exact written _ _ _ (by simpa only [requested] using taken)
  | groupsDelete body => exact written _ _ _ (by simpa only [requested] using taken)
  | targetsPost body => exact written _ _ _ (by simpa only [requested] using taken)
  | targetsPut body => exact written _ _ _ (by simpa only [requested] using taken)
  | targetsDelete body => exact written _ _ _ (by simpa only [requested] using taken)

theorem plan_kept (foreignKeys : Bool) (calls : List PlanCall) (final : PlanState)
    (reached : Runs.run (PlanState.step foreignKeys) (.start .empty) calls = some final) :
    PlanKept foreignKeys final.done final.db :=
  Runs.run_invariant (PlanState.step foreignKeys) (.start .empty) (fun _ state => PlanKept foreignKeys state.done state.db)
    (plan_kept_empty foreignKeys) (fun _ state call next kept taken => kept_step foreignKeys state next call kept taken) calls
    final reached

-- The queries of the workflow return each target whose group exists, in that group.
theorem selected_once (foreignKeys : Bool) (done : List PlanStatement) (db : PlanDb) (kept : PlanKept foreignKeys done db)
    (tables : Tables) (groups : tables.groups = db.groups) (targets : tables.targets = db.targets.map TargetRow.target)
    (answers : Answers tables) :
    (answers.groups.flatMap fun group => answers.targets group.id).Perm
      ((db.targets.filter fun row => db.hasGroup row.values.groupId).map TargetRow.target) := by
  have inGroup : ∀ group ∈ db.groups, ∀ row : TargetRow,
      row.target.groupId = group.id ↔ row.values.groupId = (group.id : Int) := by
    intro group member row
    have positive := (kept.groupInside group member).1
    change row.values.groupId.toNat = group.id ↔ row.values.groupId = (group.id : Int)
    omega
  have each : ∀ group ∈ tables.groups, (answers.targets group.id).Perm
      (((db.targets.filter fun row => db.hasGroup row.values.groupId).map TargetRow.target).filter fun target =>
        target.groupId = group.id) := by
    intro group member
    refine (answers.targetsSelected group.id).trans (List.Perm.of_eq ?_)
    rw [targets, List.filter_map, List.filter_map, List.filter_filter]
    refine congrArg _ (List.filter_congr fun row _ => ?_)
    rw [groups] at member
    by_cases here : row.target.groupId = group.id
    · have has : db.hasGroup row.values.groupId = true :=
        (has_group_iff db _).mpr ⟨group, member, ((inGroup group member row).mp here).symm⟩
      simp [here, has]
    · simp [here]
  have ordered : (answers.groups.flatMap fun group => answers.targets group.id).Perm
      (tables.groups.flatMap fun group =>
        ((db.targets.filter fun row => db.hasGroup row.values.groupId).map TargetRow.target).filter fun target =>
          target.groupId = group.id) :=
    (answers.groupsSelected.flatMap_right _).trans (List.Perm.flatMap_left _ each)
  have classes := Sequences.classes_perm Target.groupId (tables.groups.map Group.id)
    ((db.targets.filter fun row => db.hasGroup row.values.groupId).map TargetRow.target) tables.unique fun target member => ?_
  · rw [List.flatMap_map] at classes
    exact ordered.trans classes
  · obtain ⟨row, present, rfl⟩ := List.mem_map.mp member
    obtain ⟨group, here, same⟩ := (has_group_iff db _).mp (List.mem_filter.mp present).2
    rw [groups]
    exact List.mem_map.mpr ⟨group, here, ((inGroup group here row).mpr same.symm).symm⟩

-- The workflow runs the targets the operator has told of, each of them once and as told last,
-- with the credential that was given last. Without foreign keys it leaves out those whose group
-- is gone.
theorem plan_followed (foreignKeys : Bool) (calls : List PlanCall) (final : PlanState)
    (reached : Runs.run (PlanState.step foreignKeys) (.start .empty) calls = some final) (tables : Tables)
    (groups : tables.groups = final.db.groups) (targets : tables.targets = final.db.targets.map TargetRow.target)
    (answers : Answers tables) :
    PlanFollowed foreignKeys final.done final.db (answers.groups.flatMap fun group => answers.targets group.id) := by
  have kept := plan_kept foreignKeys calls final reached
  refine
    { each := selected_once foreignKeys final.done final.db kept tables groups targets answers, grouped := kept.referenced
      distinct := kept.distinct, told := kept.told, present := fun id => ?_ }
  constructor
  · rintro ⟨row, member, rfl⟩
    obtain ⟨positive, below⟩ := kept.inside row member
    exact ⟨positive, below, (kept.present row.id positive below).mp ⟨row, member, rfl⟩⟩
  · rintro ⟨positive, below, stays⟩
    exact (kept.present id positive below).mpr stays

def savedState : PlanState :=
  { db := ⟨[GroupValues.row 1 (rackGroupFields.values "rack")], 1, [⟨1, nasValues, "hunter2"⟩], 1⟩
    done := [.insertGroup (rackGroupFields.values "rack"), .insertTarget nasValues "hunter2", .updateTarget 1 nasValues none]
    replies := [.result 201 "created", .result 201 "created", .result 200 "updated", .targets [(1, nasValues, "rack")]] }

def savedTables : Tables :=
  { groups := savedState.db.groups, targets := savedState.db.targets.map TargetRow.target, unique := by decide }

def savedAnswers : Answers savedTables :=
  { groups := savedTables.groups
    targets := fun id => savedTables.targets.filter fun target => target.groupId = id
    groupsSelected := List.Perm.refl _
    groupsOrdered := List.pairwise_singleton _ _
    targetsSelected := fun _ => List.Perm.refl _
    targetsOrdered := fun _ => (List.pairwise_singleton _ _).sublist List.filter_sublist }

theorem saved_plan_followed :
    PlanFollowed true savedState.done savedState.db (savedAnswers.groups.flatMap fun group => savedAnswers.targets group.id) :=
  plan_followed true (savedCalls "hunter2") savedState (by decide +kernel) savedTables rfl rfl savedAnswers

end AiriesUps.Shutdown
