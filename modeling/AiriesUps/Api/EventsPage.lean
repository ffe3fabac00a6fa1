import AiriesUps.Lib.Runs
import Mathlib.Data.List.Basic

set_option autoImplicit false

namespace AiriesUps.Api.EventsPage

-- A row of the events table as handle_events sends it, or an event with the page's own
-- nowTimestamp.
structure Entry (Event : Type) where
  timestamp : Int
  event : Event
deriving DecidableEq, Repr

-- MAX_EVENTS of the page and the LIMIT of the query.
def maxEvents : Nat := 200

def listedRows : Nat := 50

-- The request of useApi. The answer is none for the error of a failed query.
inductive Fetch (Event : Type) where
  | idle
  | asked
  | answered (rows : Option (List (Entry Event)))
deriving DecidableEq, Repr

structure Page (Event : Type) where
  fetch : Fetch Event
  initial : Option (List (Entry Event))
  failed : Bool
  live : List (Entry Event)
deriving DecidableEq, Repr

-- The events table, the fire_event calls between their INSERT and sse_on_monitor_event,
-- the browser's subscription with what is on its way to the browser, and the page.
structure Site (Event : Type) where
  journal : List (Entry Event)
  firing : List Event
  connected : Bool
  stream : List Event
  page : Option (Page Event)
deriving DecidableEq, Repr

-- lose is the oldest frame dropped from a full queue, connect and disconnect are the
-- EventSource's; select is the query of handle_events and land the answer in the page.
inductive Label (Event : Type) where
  | insert (event : Event) (now : Int) (stored : Bool)
  | emit (event : Event) (built : Bool)
  | lose
  | connect
  | disconnect
  | arrive (event : Event) (now : Int)
  | openPage
  | closePage
  | select (works : Bool)
  | land
deriving DecidableEq, Repr

section

variable {Event : Type}

def Page.opened : Page Event := { fetch := .asked, initial := none, failed := false, live := [] }

-- setLive with the new event on top.
def Page.prepend (page : Page Event) (entry : Entry Event) : Page Event :=
  { page with live := (entry :: page.live).take maxEvents }

def Page.events (page : Page Event) : List (Entry Event) := (page.live ++ page.initial.getD []).take maxEvents

-- SELECT ... ORDER BY id DESC LIMIT 50.
def newest (journal : List (Entry Event)) : List (Entry Event) := journal.reverse.take listedRows

-- setData, and the effect that empties the live list; or setError.
def Page.land (page : Page Event) (rows : Option (List (Entry Event))) : Page Event :=
  match rows with
  | some rows => { page with fetch := .idle, initial := some rows, live := [] }
  | none => { page with fetch := .idle, failed := true }

variable [DecidableEq Event]

def step : Runs.Step (Site Event) (Label Event)
  | site, .insert event now stored =>
    some { site with
      journal := if stored then site.journal ++ [{ timestamp := now, event := event }] else site.journal
      firing := site.firing ++ [event] }
  | site, .emit event built =>
    if event ∈ site.firing then
      some { site with
        firing := site.firing.erase event
        stream := if built && site.connected then site.stream ++ [event] else site.stream }
    else none
  | site, .lose => if site.stream = [] then none else some { site with stream := site.stream.tail }
  | site, .connect => if site.connected then none else some { site with connected := true, stream := [] }
  | site, .disconnect => if site.connected then some { site with connected := false, stream := [] } else none
  | site, .arrive event now =>
    if site.stream.head? = some event then
      some { site with
        stream := site.stream.tail
        page := site.page.map fun page => page.prepend { timestamp := now, event := event } }
    else none
  | site, .openPage => some { site with page := some .opened }
  | site, .closePage => some { site with page := none }
  | site, .select works =>
    site.page.bind fun page =>
      if page.fetch = .asked then
        some { site with
          page := some { page with fetch := .answered (if works then some (newest site.journal) else none) } }
      else none
  | site, .land =>
    site.page.bind fun page =>
      match page.fetch with
      | .answered rows => some { site with page := some (page.land rows) }
      | _ => none

end

section

variable {Event : Type}

def Label.arrival : Label Event → Option (Entry Event)
  | .arrive event now => some { timestamp := now, event := event }
  | _ => none

def Label.inserted : Label Event → Option Event
  | .insert event _ _ => some event
  | _ => none

def arrivals (labels : List (Label Event)) : List (Entry Event) := labels.filterMap Label.arrival

def insertions (labels : List (Label Event)) : List Event := labels.filterMap Label.inserted

-- Nothing is lost between fire_event and the browser.
def Label.lossless : Label Event → Bool
  | .emit _ built => built
  | .lose | .connect | .disconnect => false
  | _ => true

-- The page stays open and its request is not answered twice.
def Label.quiet : Label Event → Bool
  | .openPage | .closePage | .select _ | .land => false
  | _ => true

def Page.watched (page : Page Event) (entries : List (Entry Event)) : Page Event := entries.foldl Page.prepend page

theorem take_prepended {Item : Type} (front back : List Item) (count : Nat) :
    (front ++ back.take count).take count = (front ++ back).take count := by
  rw [List.take_append, List.take_append, List.take_take, Nat.min_eq_left (Nat.sub_le _ _)]

theorem take_front {Item : Type} (front : List Item) (count : Nat) (short : front.length ≤ count) :
    front.reverse.take count = front.reverse := List.take_of_length_le (by rwa [List.length_reverse])

-- What has arrived is on top, newest first, and cut to the cap.
theorem watched_page (page : Page Event) (entries : List (Entry Event)) (few : page.live.length ≤ maxEvents) :
    page.watched entries = { page with live := (entries.reverse ++ page.live).take maxEvents } := by
  induction entries generalizing page with
  | nil =>
    rw [List.reverse_nil, List.nil_append, List.take_of_length_le few]
    rfl
  | cons entry rest ih =>
    have cut : (page.prepend entry).live.length ≤ maxEvents := by
      rw [Page.prepend, List.length_take]
      exact Nat.min_le_left _ _
    have later := ih (page.prepend entry) cut
    rw [Page.watched, List.foldl_cons, ← Page.watched, later, Page.prepend]
    dsimp only
    rw [take_prepended, List.reverse_cons, List.append_assoc, List.singleton_append]

theorem watched_fetch (page : Page Event) (entries : List (Entry Event)) : (page.watched entries).fetch = page.fetch := by
  induction entries generalizing page with
  | nil => rfl
  | cons entry rest ih => exact ih (page.prepend entry)

variable [DecidableEq Event]

-- While the page is open it changes by what arrives, and by nothing else.
theorem quiet_page (site next : Site Event) (label : Label Event) (page : Page Event) (open_ : site.page = some page)
    (quiet : label.quiet = true) (taken : step site label = some next) :
    next.page = some (page.watched (arrivals [label])) := by
  cases label with
  | insert event now stored =>
    cases taken
    exact open_
  | emit event built =>
    rw [step, Option.ite_none_right_eq_some] at taken
    obtain ⟨-, taken⟩ := taken
    cases taken
    exact open_
  | lose =>
    rw [step, Option.ite_none_left_eq_some] at taken
    obtain ⟨-, taken⟩ := taken
    cases taken
    exact open_
  | connect =>
    rw [step, Option.ite_none_left_eq_some] at taken
    obtain ⟨-, taken⟩ := taken
    cases taken
    exact open_
  | disconnect =>
    rw [step, Option.ite_none_right_eq_some] at taken
    obtain ⟨-, taken⟩ := taken
    cases taken
    exact open_
  | arrive event now =>
    rw [step, Option.ite_none_right_eq_some] at taken
    obtain ⟨-, taken⟩ := taken
    cases taken
    rw [open_]
    rfl
  | openPage => cases quiet
  | closePage => cases quiet
  | select works => cases quiet
  | land => cases quiet

theorem quiet_run (labels : List (Label Event)) (site final : Site Event) (page : Page Event) (open_ : site.page = some page)
    (quiet : ∀ label ∈ labels, label.quiet = true) (reached : Runs.run step site labels = some final) :
    final.page = some (page.watched (arrivals labels)) := by
  induction labels generalizing site page with
  | nil =>
    cases reached
    exact open_
  | cons label rest ih =>
    rw [Runs.run_cons] at reached
    obtain ⟨next, taken, reached⟩ := Option.bind_eq_some_iff.mp reached
    have first := quiet_page site next label page open_ (quiet label List.mem_cons_self) taken
    have later := ih next (page.watched (arrivals [label])) first
      (fun other among => quiet other (List.mem_cons_of_mem _ among)) reached
    have arrived : arrivals (label :: rest) = arrivals [label] ++ arrivals rest := by
      rw [arrivals, arrivals, arrivals, ← List.filterMap_append]
      rfl
    rw [later, arrived, Page.watched, Page.watched, Page.watched, List.foldl_append]

def eventsOf (entries : List (Entry Event)) : List Event := entries.map Entry.event

-- The event's copies between fire_event and the page.
def Site.underway (site : Site Event) (event : Event) : Nat := site.firing.count event + site.stream.count event

structure Conserved (site next : Site Event) (labels : List (Label Event)) (event : Event) : Prop where
  connected : next.connected = true
  underway : next.underway event + (eventsOf (arrivals labels)).count event =
    site.underway event + (insertions labels).count event
  stored : (eventsOf next.journal).count event ≤ (eventsOf site.journal).count event + (insertions labels).count event

theorem still (site next : Site Event) (label : Label Event) (event : Event) (connected : site.connected = true)
    (isConnected : next.connected = site.connected) (firing : next.firing = site.firing) (stream : next.stream = site.stream)
    (journal : next.journal = site.journal) (arrival : label.arrival = none) (inserted : label.inserted = none) :
    Conserved site next [label] event := by
  have none_ : arrivals [label] = [] := by rw [arrivals, List.filterMap_cons, arrival, List.filterMap_nil]
  have nothing : insertions [label] = [] := by rw [insertions, List.filterMap_cons, inserted, List.filterMap_nil]
  refine ⟨isConnected.trans connected, ?_, ?_⟩
  · rw [Site.underway, Site.underway, firing, stream, none_, nothing]
    rfl
  · rw [journal]
    exact Nat.le_add_right _ _

-- A step of a lossless run moves an event on by one stage, or brings a new one in.
theorem conserved_step (site next : Site Event) (label : Label Event) (event : Event) (connected : site.connected = true)
    (lossless : label.lossless = true) (taken : step site label = some next) : Conserved site next [label] event := by
  cases label with
  | insert other now stored =>
    cases taken
    refine ⟨connected, ?_, ?_⟩
    · simp only [Site.underway, List.count_append, insertions, List.filterMap_cons, Label.inserted, List.filterMap_nil,
        arrivals, Label.arrival, eventsOf, List.map_nil, List.count_nil]
      omega
    · cases stored with
      | false => exact Nat.le_add_right _ _
      | true => simp [eventsOf, insertions, Label.inserted]
  | emit other built =>
    rw [step, Option.ite_none_right_eq_some] at taken
    obtain ⟨among, taken⟩ := taken
    cases taken
    have isBuilt : built = true := lossless
    refine ⟨connected, ?_, Nat.le_add_right _ _⟩
    have positive : 0 < site.firing.count other := List.count_pos_iff.mpr among
    simp only [Site.underway, isBuilt, connected, Bool.and_true, if_true, List.count_append, List.count_erase,
      List.count_singleton, insertions, List.filterMap_cons, Label.inserted, List.filterMap_nil, arrivals, Label.arrival,
      eventsOf, List.map_nil, List.count_nil]
    by_cases same : other = event
    · rw [same] at positive
      rw [same, if_pos BEq.rfl]
      omega
    · rw [if_neg (by rw [beq_iff_eq]; exact same)]
      omega
  | lose => cases lossless
  | connect => cases lossless
  | disconnect => cases lossless
  | arrive other now =>
    rw [step, Option.ite_none_right_eq_some] at taken
    obtain ⟨first, taken⟩ := taken
    cases taken
    refine ⟨connected, ?_, Nat.le_add_right _ _⟩
    obtain ⟨rest, split⟩ : ∃ rest, site.stream = other :: rest := by
      cases queued : site.stream with
      | nil =>
        rw [queued] at first
        cases first
      | cons head rest =>
        rw [queued] at first
        exact ⟨rest, by rw [Option.some.inj first]⟩
    simp only [Site.underway, split, List.tail_cons, List.count_cons, insertions, List.filterMap_cons, Label.inserted,
      List.filterMap_nil, arrivals, Label.arrival, eventsOf, List.map_cons, List.map_nil, List.count_nil]
    omega
  | openPage =>
    cases taken
    exact still site _ _ event connected rfl rfl rfl rfl rfl rfl
  | closePage =>
    cases taken
    exact still site _ _ event connected rfl rfl rfl rfl rfl rfl
  | select works =>
    rw [step] at taken
    obtain ⟨page, -, taken⟩ := Option.bind_eq_some_iff.mp taken
    rw [Option.ite_none_right_eq_some] at taken
    obtain ⟨-, taken⟩ := taken
    cases taken
    exact still site _ _ event connected rfl rfl rfl rfl rfl rfl
  | land =>
    rw [step] at taken
    obtain ⟨page, -, taken⟩ := Option.bind_eq_some_iff.mp taken
    split at taken
    · cases taken
      exact still site _ _ event connected rfl rfl rfl rfl rfl rfl
    · cases taken

theorem conserved_run (labels : List (Label Event)) (site final : Site Event) (event : Event)
    (connected : site.connected = true) (lossless : ∀ label ∈ labels, label.lossless = true)
    (reached : Runs.run step site labels = some final) : Conserved site final labels event := by
  induction labels generalizing site with
  | nil =>
    cases reached
    exact ⟨connected, rfl, Nat.le_add_right _ _⟩
  | cons label rest ih =>
    rw [Runs.run_cons] at reached
    obtain ⟨next, taken, reached⟩ := Option.bind_eq_some_iff.mp reached
    have first := conserved_step site next label event connected (lossless label List.mem_cons_self) taken
    have later := ih next first.connected (fun other among => lossless other (List.mem_cons_of_mem _ among)) reached
    have arrived : arrivals (label :: rest) = arrivals [label] ++ arrivals rest := by
      rw [arrivals, arrivals, arrivals, ← List.filterMap_append]
      rfl
    have entered : insertions (label :: rest) = insertions [label] ++ insertions rest := by
      rw [insertions, insertions, insertions, ← List.filterMap_append]
      rfl
    have moved := first.underway
    have movedOn := later.underway
    have stored := first.stored
    have storedOn := later.stored
    refine ⟨later.connected, ?_, ?_⟩
    · rw [arrived, entered, eventsOf, List.map_append, List.count_append, List.count_append, ← eventsOf, ← eventsOf]
      omega
    · rw [entered, List.count_append]
      omega

-- The page after its request: the rows that were selected, and above them what has
-- arrived since the answer landed.
theorem landed_page (site final : Site Event) (between after : List (Label Event))
    (quiet : ∀ label ∈ between ++ after, label.quiet = true)
    (reached : Runs.run step site (.select true :: (between ++ .land :: after)) = some final) :
    ∃ page, final.page = some page ∧ page.initial = some (newest site.journal) ∧
      page.live = (arrivals after).reverse.take maxEvents := by
  rw [Runs.run_cons] at reached
  obtain ⟨selected, taken, reached⟩ := Option.bind_eq_some_iff.mp reached
  rw [Runs.run_append] at reached
  obtain ⟨waiting, travelled, reached⟩ := Option.bind_eq_some_iff.mp reached
  rw [Runs.run_cons] at reached
  obtain ⟨landed, landing, reached⟩ := Option.bind_eq_some_iff.mp reached
  rw [step] at taken
  obtain ⟨page, open_, taken⟩ := Option.bind_eq_some_iff.mp taken
  rw [Option.ite_none_right_eq_some] at taken
  obtain ⟨-, taken⟩ := taken
  cases taken
  have travelling := quiet_run between _ waiting _ rfl (fun label among => quiet label (List.mem_append_left _ among)) travelled
  rw [step, travelling, Option.bind_some, watched_fetch] at landing
  dsimp only at landing
  rw [if_pos rfl] at landing
  cases landing
  have watching := quiet_run after _ final _ rfl (fun label among => quiet label (List.mem_append_right _ among)) reached
  refine ⟨_, watching, ?_, ?_⟩
  · rw [watched_page _ _ (Nat.zero_le _)]
    rfl
  · rw [watched_page _ _ (Nat.zero_le _)]
    exact congrArg (List.take maxEvents) (List.append_nil _)

-- An event of a lossless run that is no longer on its way is missing from the page
-- exactly when it came too late for the SELECT and too early for the answer; and it is
-- there twice exactly when it was in the SELECT and came after the answer.
theorem missed_iff (site final : Site Event) (before between after : List (Label Event)) (event : Event)
    (connected : site.connected = true) (fresh : event ∉ eventsOf site.journal ∧ site.underway event = 0)
    (lossless : ∀ label ∈ .openPage :: before ++ .select true :: (between ++ .land :: after), label.lossless = true)
    (quiet : ∀ label ∈ between ++ after, label.quiet = true)
    (once : (insertions (.openPage :: before ++ .select true :: (between ++ .land :: after))).count event = 1)
    (reached : Runs.run step site (.openPage :: before ++ .select true :: (between ++ .land :: after)) = some final)
    (settled : final.underway event = 0) (room : (arrivals after).length + listedRows ≤ maxEvents) :
    ∃ selecting page, Runs.run step site (.openPage :: before) = some selecting ∧ final.page = some page ∧
      (event ∉ eventsOf page.events ↔
        event ∉ eventsOf (newest selecting.journal) ∧ event ∈ eventsOf (arrivals (before ++ between))) ∧
      (2 ≤ (eventsOf page.events).count event ↔
        event ∈ eventsOf (newest selecting.journal) ∧ event ∈ eventsOf (arrivals after)) := by
  have whole := conserved_run _ site final event connected lossless reached
  have split := reached
  rw [Runs.run_append] at split
  obtain ⟨selecting, opened, rest⟩ := Option.bind_eq_some_iff.mp split
  obtain ⟨page, isPage, initial, live⟩ := landed_page selecting final between after quiet rest
  refine ⟨selecting, page, opened, isPage, ?_⟩
  have counted : (eventsOf page.events).count event =
      (eventsOf (arrivals after)).count event + (eventsOf (newest selecting.journal)).count event := by
    have rows : (newest selecting.journal).length ≤ listedRows := by
      rw [newest, List.length_take]
      exact Nat.min_le_left _ _
    rw [Page.events, live, initial, Option.getD_some, take_front _ _ (by omega),
      List.take_of_length_le (by rw [List.length_append, List.length_reverse]; omega), eventsOf, List.map_append,
      List.count_append, List.map_reverse, List.count_reverse]
    rfl
  have listed : (eventsOf (newest selecting.journal)).count event ≤ 1 := by
    have front := conserved_run (.openPage :: before) site selecting event connected
      (fun label among => lossless label (List.mem_append_left _ among)) opened
    have absent := List.count_eq_zero.mpr fresh.1
    have stored := front.stored
    have inserted : (insertions (.openPage :: before)).count event ≤ 1 := by
      rw [insertions, List.filterMap_append, List.count_append] at once
      rw [insertions]
      omega
    have newestRows : (eventsOf (newest selecting.journal)).count event ≤ (eventsOf selecting.journal).count event := by
      have part : (eventsOf (newest selecting.journal)).Sublist (eventsOf selecting.journal.reverse) :=
        (List.take_sublist _ _).map _
      have counts := part.count_le event
      rwa [eventsOf, eventsOf, List.map_reverse, List.count_reverse] at counts
    omega
  have arrived : (eventsOf (arrivals (before ++ between))).count event + (eventsOf (arrivals after)).count event = 1 := by
    have total := whole.underway
    have parts : arrivals (.openPage :: before ++ .select true :: (between ++ .land :: after)) =
        arrivals (before ++ between) ++ arrivals after := by
      simp only [arrivals, List.filterMap_append, List.filterMap_cons, Label.arrival, List.append_assoc, List.cons_append]
    rw [parts, eventsOf, List.map_append, List.count_append, ← eventsOf, ← eventsOf, once, settled, fresh.2] at total
    omega
  rw [← List.count_eq_zero, ← List.count_eq_zero, ← List.count_pos_iff, ← List.count_pos_iff, ← List.count_pos_iff, counted]
  constructor <;> omega

end

def blankSite : Site Nat := { journal := [], firing := [], connected := true, stream := [], page := none }

-- Event 7 is inserted after the SELECT and arrives before the answer.
def inTheGap : List (Label Nat) := [.insert 7 100 true, .emit 7 true, .arrive 7 101]

def missedSite : Site Nat :=
  { journal := [{ timestamp := 100, event := 7 }], firing := [], connected := true, stream := []
    page := some { fetch := .idle, initial := some [], failed := false, live := [] } }

theorem gap_missed :
    ∃ selecting page, Runs.run step blankSite [.openPage] = some selecting ∧ missedSite.page = some page ∧
      (7 ∉ eventsOf page.events ↔
        7 ∉ eventsOf (newest selecting.journal) ∧ 7 ∈ eventsOf (arrivals ([] ++ inTheGap))) ∧
      (2 ≤ (eventsOf page.events).count 7 ↔
        7 ∈ eventsOf (newest selecting.journal) ∧ 7 ∈ eventsOf (arrivals [])) :=
  missed_iff blankSite missedSite [] inTheGap [] 7 rfl (by decide) (by decide) (by decide) (by decide) (by decide +kernel)
    (by decide) (by decide)

end AiriesUps.Api.EventsPage
