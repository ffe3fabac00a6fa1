import AiriesUps.Hid.Registers
import AiriesUps.Lib.Patches

set_option autoImplicit false

namespace AiriesUps.Hid

open Patches (Absorbing lastPatch)

-- apc_config_regs or cyberpower_config_regs as the program starts with it; the drivers
-- change this table in place, and never change it back.
def HidDriver.staticRegs : HidDriver → List ConfigReg
  | apcHid => apcConfigRegs
  | cyberpowerHid => cyberpowerConfigRegs

-- The FIX lines for a map: a NULL field leaves its register as it is.
def HidDriver.fixes (driver : HidDriver) (map : ReportMap) : List (Option (ConfigReg → ConfigReg)) :=
  (driver.configFields map).map fun field => field.map fun index reg => hidPdcFixupConfigReg map reg index

def HidDriver.fixupConfigRegs (driver : HidDriver) (table : List ConfigReg) (map : ReportMap) : List ConfigReg :=
  Patches.apply table (driver.fixes map)

def HidDriver.keepConfigRegs (driver : HidDriver) (table : List ConfigReg) (map : ReportMap) : List ConfigReg :=
  (List.zipWith (fun reg field => field.map fun _ => reg) table (driver.configFields map)).filterMap id

-- A connect or reconnect: the report map of the device, and whether ups_resolve_runtime
-- gets its memory.
structure Connect where
  map : ReportMap
  allocates : Bool

structure ConfigTables where
  table : List ConfigReg
  resolved : Option (List ConfigReg)

def HidDriver.startTables (driver : HidDriver) : ConfigTables := { table := driver.staticRegs, resolved := none }

-- ups_resolve_runtime with apc_resolve_config_regs or cyberpower_resolve_config_regs.
def HidDriver.connect (driver : HidDriver) (tables : ConfigTables) (connect : Connect) : ConfigTables :=
  if connect.allocates then
    let table := driver.fixupConfigRegs tables.table connect.map
    let kept := driver.keepConfigRegs table connect.map
    { table := table, resolved := if kept = [] then none else some kept }
  else { tables with resolved := none }

def HidDriver.connectAll (driver : HidDriver) (connects : List Connect) : ConfigTables :=
  connects.foldl driver.connect driver.startTables

def ConfigTables.exposed (tables : ConfigTables) : List ConfigReg := tables.resolved.getD tables.table

def fixedMaps (connects : List Connect) : List ReportMap := (connects.filter Connect.allocates).map Connect.map

-- What is left in the table for a register: the fixup for the last of the maps in which
-- its field was found, or the placeholder it was compiled with.
def HidDriver.leftover (driver : HidDriver) (maps : List ReportMap) (position : Nat) (reg : ConfigReg) : ConfigReg :=
  (lastPatch (maps.map driver.fixes) position).getD id reg

theorem fixup_again (earlier map : ReportMap) (reg : ConfigReg) (first index : Nat) (present : (map[index]?).isSome = true) :
    hidPdcFixupConfigReg map (hidPdcFixupConfigReg earlier reg first) index = hidPdcFixupConfigReg map reg index := by
  obtain ⟨field, found⟩ := Option.isSome_iff_exists.mp present
  rw [hidPdcFixupConfigReg, hidPdcFixupConfigReg, hidPdcFixupConfigReg, found]
  cases reg.kind with
  | scalar min max => cases earlier[first]? <;> rfl
  | bitfield options strict => rfl
  | string maxChars => rfl
  | flags options => rfl

theorem fixes_length (driver : HidDriver) (map : ReportMap) : (driver.fixes map).length = driver.staticRegs.length := by
  cases driver <;> rfl

theorem fixes_entry (driver : HidDriver) (map : ReportMap) (position : Nat) (change : ConfigReg → ConfigReg)
    (made : (driver.fixes map)[position]? = some (some change)) :
    ∃ index, (map[index]?).isSome = true ∧ change = fun reg => hidPdcFixupConfigReg map reg index := by
  rw [HidDriver.fixes, List.getElem?_map, Option.map_eq_some_iff] at made
  obtain ⟨pointer, listed, same⟩ := made
  obtain ⟨index, isIndex, isChange⟩ := Option.map_eq_some_iff.mp same
  obtain ⟨field, present, _⟩ := config_fields_pointers driver map pointer (List.mem_of_getElem? listed) index isIndex
  exact ⟨index, Option.isSome_iff_exists.mpr ⟨field, present⟩, isChange.symm⟩

theorem fixes_absorbing (driver : HidDriver) (maps : List ReportMap) :
    Absorbing driver.staticRegs.length (maps.map driver.fixes) where
  sized patches inside := by
    obtain ⟨map, _, rfl⟩ := List.mem_map.mp inside
    exact fixes_length driver map
  hides earlier before later after position first second madeFirst madeSecond reg := by
    obtain ⟨earlierMap, _, rfl⟩ := List.mem_map.mp before
    obtain ⟨laterMap, _, rfl⟩ := List.mem_map.mp after
    obtain ⟨old, _, rfl⟩ := fixes_entry driver earlierMap position first madeFirst
    obtain ⟨new, present, rfl⟩ := fixes_entry driver laterMap position second madeSecond
    exact fixup_again earlierMap laterMap reg old new present

theorem keep_touched (driver : HidDriver) (table : List ConfigReg) (map : ReportMap) :
    driver.keepConfigRegs table map = Patches.touched table (driver.fixes map) := by
  rw [HidDriver.keepConfigRegs, Patches.touched, HidDriver.fixes, List.zipWith_map_right]
  congr 2
  funext reg field
  cases field <;> rfl

theorem resolve_patched (driver : HidDriver) (map : ReportMap) :
    driver.resolveConfigRegs map = Patches.patched driver.staticRegs (driver.fixes map) := by
  have zipped (regs : List ConfigReg) (fields : List (Option Nat)) :
      keepResolved map regs fields =
        Patches.patched regs (fields.map fun field => field.map fun index reg => hidPdcFixupConfigReg map reg index) := by
    have fixed : List.zipWith (fun reg field => (field.map fun index reg => hidPdcFixupConfigReg map reg index).map
        fun change => change reg) regs fields =
          (regs.zip fields).map fun entry => entry.2.map (hidPdcFixupConfigReg map entry.1) := by
      rw [List.map_zip_eq_zipWith]
      congr 1
      funext reg field
      exact Option.map_map _ _ field
    rw [keepResolved, Patches.patched, List.zipWith_map_right, fixed, List.filterMap_map]
    rfl
  cases driver <;> exact zipped _ _

theorem connect_all_concat (driver : HidDriver) (connects : List Connect) (last : Connect) :
    driver.connectAll (connects ++ [last]) = driver.connect (driver.connectAll connects) last := by
  rw [HidDriver.connectAll, List.foldl_append]
  rfl

theorem connect_all_table (driver : HidDriver) (connects : List Connect) :
    (driver.connectAll connects).table = Patches.applyAll driver.staticRegs ((fixedMaps connects).map driver.fixes) := by
  induction connects using List.reverseRecOn with
  | nil => rfl
  | append_singleton connects last ih =>
    rw [connect_all_concat, HidDriver.connect]
    cases allocates : last.allocates with
    | false =>
      have none_ : fixedMaps (connects ++ [last]) = fixedMaps connects := by
        simp [fixedMaps, List.filter_append, allocates]
      rw [if_neg (by decide), none_]
      exact ih
    | true =>
      have one : fixedMaps (connects ++ [last]) = fixedMaps connects ++ [last.map] := by
        simp [fixedMaps, List.filter_append, allocates]
      rw [if_pos rfl, one, List.map_append, List.map_singleton, Patches.apply_all_concat, ← ih]
      rfl

-- The registers the API sees after any sequence of connects to any devices: those of the
-- device connected last, fixed up for it as if the driver had never seen another one. Only
-- where it has none of them, or memory was short, is the whole table seen instead, with
-- what earlier devices left in it.
theorem exposed_registers (driver : HidDriver) (connects : List Connect) (last : Connect) :
    (driver.connectAll (connects ++ [last])).exposed =
      if last.allocates = true ∧ driver.resolveConfigRegs last.map ≠ [] then driver.resolveConfigRegs last.map
      else driver.staticRegs.mapIdx (driver.leftover (fixedMaps (connects ++ [last]))) := by
  have whole : (driver.connectAll (connects ++ [last])).table =
      driver.staticRegs.mapIdx (driver.leftover (fixedMaps (connects ++ [last]))) := by
    rw [connect_all_table]
    refine List.ext_getElem? fun position => ?_
    rw [Patches.apply_all_entry _ _ (fixes_absorbing driver _), List.getElem?_mapIdx]
    rfl
  rw [← whole, connect_all_concat, HidDriver.connect]
  cases allocates : last.allocates with
  | false => rfl
  | true =>
    have one : fixedMaps (connects ++ [last]) = fixedMaps connects ++ [last.map] := by
      simp [fixedMaps, List.filter_append, allocates]
    have absorbing := fixes_absorbing driver (fixedMaps connects ++ [last.map])
    rw [List.map_append, List.map_singleton] at absorbing
    have kept : driver.keepConfigRegs (driver.fixupConfigRegs (driver.connectAll connects).table last.map) last.map =
        driver.resolveConfigRegs last.map := by
      rw [keep_touched, HidDriver.fixupConfigRegs, connect_all_table, ← Patches.apply_all_concat, resolve_patched]
      exact Patches.touched_fresh _ _ _ absorbing
    rw [if_pos rfl]
    dsimp only
    rw [kept]
    by_cases empty : driver.resolveConfigRegs last.map = []
    · rw [if_pos empty, if_neg fun both => both.2 empty]
      rfl
    · rw [if_neg empty, if_pos ⟨rfl, empty⟩]
      rfl

end AiriesUps.Hid
