import Mathlib.Data.List.Forall2
import BuildFleet.Proofs.Settings.Places
import BuildFleet.Proofs.Settings.Repetition

/-!
# Settings of the wrong form

A value of another form than its setting should be an error, so that a token protects, a
secret signs and a command keeps its words. That is so for counts, for durations and for what
a node cannot do without. All other misfits are passed over without a sign. The main statement
tells which are reported, that the others do not count, and when accepted settings do what
the document asks for.
-/

namespace BuildFleet

/-- The words of a command. -/
def EnvironmentSettings.words : EnvironmentSettings → List String
  | process command _ => command
  | docker _ command => command

namespace Settings

open Kdl (Node Value)

variable {node : Node} {name : String} {place : Place} {slot : Slot} {document : Kdl.Document}
  {settings : Settings}

/-! ## Misfits that are reported -/

/-- Counts, durations, and what a node cannot do without. -/
def Place.Checks (place : Place) : Slot → Prop
  | .argument index => index = 0 ∧ place ∈ [store, environment, webhook]
  | .property name => (place = worker ∧ name = "target") ∨
      ∃ form ∈ place.property? name, form.reported = true

/-- A node has been read at its place. -/
def Place.Read : Place → Node → Prop
  | .document, node => ∃ settings, ofDocument node.children = .ok settings
  | .store, node => firstString? node ≠ none
  | .lease, node => ∃ before after, readLease before node = .ok after
  | .build, node => ∃ given, durationProperty node "timeout" = .ok given
  | .worker, node => ∃ worker, readWorker node = .ok worker
  | .environment, node => ∃ environment, readEnvironment node = .ok environment
  | .notify, node => ∃ notify, readNotify node = .ok notify
  | .webhook, node => ∃ webhook, readWebhook node = .ok webhook
  | .api, node => ∃ before after, readApi before node = .ok after
  | _, _ => True

theorem forall₂_of_mapM_ok {ε α β : Type} {read : α → Except ε β} {values : List α}
    {results : List β} (done : values.mapM read = .ok results) :
    List.Forall₂ (fun value result => read value = .ok result) values results := by
  induction values generalizing results with
  | nil =>
      cases done
      exact .nil
  | cons first rest induction =>
      rw [List.mapM_cons] at done
      rcases parts_of_ok done with ⟨head, readFirst, others⟩
      rcases parts_of_ok others with ⟨tail, readRest, made⟩
      cases made
      exact .cons readFirst (induction readRest)

theorem each_of_mapM_ok {ε α β : Type} {read : α → Except ε β} {values : List α}
    {results : List β} (done : values.mapM read = .ok results) {value : α}
    (member : value ∈ values) : ∃ result, read value = .ok result := by
  have pairs := forall₂_of_mapM_ok done
  rcases List.mem_iff_get.mp member with ⟨index, rfl⟩
  exact ⟨_, pairs.get index.isLt (pairs.length_eq ▸ index.isLt)⟩

theorem each_of_foldlM_ok {ε α σ : Type} {read : σ → α → Except ε σ} {values : List α}
    {first last : σ} (done : values.foldlM read first = .ok last) {value : α}
    (member : value ∈ values) : ∃ before after, read before value = .ok after := by
  induction values generalizing first with
  | nil => cases member
  | cons head rest induction =>
      rw [List.foldlM_cons] at done
      rcases parts_of_ok done with ⟨middle, readHead, others⟩
      rcases List.mem_cons.mp member with rfl | later
      · exact ⟨first, middle, readHead⟩
      · exact induction others later

theorem of_map_ok {ε α β : Type} {first : Except ε α} {change : α → β} {result : β}
    (done : first.map change = .ok result) :
    ∃ value, first = .ok value ∧ change value = result := by
  cases first with
  | error fault => cases done
  | ok value => exact ⟨value, rfl, Except.ok.inj done⟩

theorem Place.read_of_section {part : Section} (accepted : ofDocument document = .ok settings)
    (member : node ∈ document) (named : node.name = part.name) : (ofSection part).Read node := by
  rcases sections_of_accepted accepted with ⟨draft, _, sections⟩
  have inSection : node ∈ part.nodes document := List.mem_filter.mpr ⟨member, by simp [named]⟩
  rcases each_of_foldlM_ok (sections part) inSection with ⟨before, after, read⟩
  cases part with
  | store =>
      rcases of_map_ok read with ⟨url, there, _⟩
      have first := eq_some_of_require there
      exact Option.ne_none_iff_exists'.mpr ⟨url, first⟩
  | lease => exact ⟨before, after, read⟩
  | build =>
      rcases of_map_ok read with ⟨given, there, _⟩
      exact ⟨given, there⟩
  | targets => trivial
  | group => trivial
  | worker =>
      simp only [Section.read] at read
      split at read
      · cases read
      · rcases of_map_ok read with ⟨worker, there, _⟩
        exact ⟨worker, there⟩
  | notify => exact ⟨after, read⟩
  | api => exact ⟨before, after, read⟩

theorem Place.inner_worker {inside : Place} (named : worker.inner name = some inside) :
    name = "environment" ∧ inside = environment := by
  unfold inner at named
  split at named
  all_goals first | contradiction | exact ⟨rfl, (Option.some.inj named).symm⟩

theorem Place.inner_notify {inside : Place} (named : notify.inner name = some inside) :
    name = "webhook" ∧ inside = webhook := by
  unfold inner at named
  split at named
  all_goals first | contradiction | exact ⟨rfl, (Option.some.inj named).symm⟩

theorem Place.inner_environment {inside : Place} (named : environment.inner name = some inside) :
    inside = command ∨ inside = image ∨ inside = workdir := by
  unfold inner at named
  split at named
  all_goals first | contradiction | simp [← Option.some.inj named]

/-- The nodes inside a node that has been read have been read, also those that a later one of
the same name stands in for. -/
theorem Place.read_of_child {outer inside : Place} {child : Node} (read : outer.Read node)
    (member : child ∈ node.children) (named : outer.inner child.name = some inside) :
    inside.Read child := by
  cases outer
  case document =>
    rcases exists_section named with ⟨part, same, rfl⟩
    rcases read with ⟨settings, accepted⟩
    exact read_of_section accepted member same
  case worker =>
    rcases read with ⟨worker, read⟩
    rcases inner_worker named with ⟨same, rfl⟩
    rcases parts_of_ok read with ⟨target, _, rest⟩
    rcases parts_of_ok rest with ⟨environments, readEach, _⟩
    exact each_of_mapM_ok readEach (List.mem_filter.mpr ⟨member, by simp [same]⟩)
  case notify =>
    rcases read with ⟨notify, read⟩
    rcases inner_notify named with ⟨same, rfl⟩
    rcases parts_of_ok read with ⟨webhooks, readEach, _⟩
    exact each_of_mapM_ok readEach (List.mem_filter.mpr ⟨member, by simp [same]⟩)
  case environment =>
    rcases inner_environment named with rfl | rfl | rfl <;> trivial
  all_goals cases named

theorem read_of_holds (accepted : ofDocument document = .ok settings)
    (holds : Holds document place node) : place.Read node := by
  induction holds with
  | whole => exact ⟨settings, accepted⟩
  | child _ member named read => exact Place.read_of_child read member named

theorem durationProperty_ne_ok {value : Value} (given : node.property? name = some value)
    (bad : Form.duration.admits value = false) (span : Option Span) :
    durationProperty node name ≠ .ok span := by
  intro read
  rw [durationProperty, given] at read
  cases value with
  | string text => cases bad
  | integer seconds => cases bad
  | decimal literal => cases read
  | bool truth => cases read
  | null => cases read

theorem countProperty_ne_ok {value : Value} (given : node.property? name = some value)
    (bad : Form.count.admits value = false) (count : Option Nat) :
    countProperty node name ≠ .ok count := by
  intro read
  rw [countProperty, given] at read
  cases value with
  | integer number => cases bad
  | string text => cases read
  | decimal literal => cases read
  | bool truth => cases read
  | null => cases read

theorem firstString?_eq_none {value : Value} (given : node.arguments[0]? = some value)
    (bad : Form.text.admits value = false) : firstString? node = none := by
  rw [firstString?, List.head?_eq_getElem?, given]
  simpa [Form.admits_text] using bad

theorem stringProperty?_eq_none {value : Value} (given : node.property? name = some value)
    (bad : Form.text.admits value = false) : stringProperty? node name = none := by
  rw [stringProperty?, given]
  simpa [Form.admits_text] using bad

/-- Counts and durations of a node that has been read are such. -/
theorem Place.reported_of_read {form : Form} (read : place.Read node)
    (asked : place.property? name = some form) (reported : form.reported = true) :
    (form = .duration ∧ ∃ given, durationProperty node name = .ok given) ∨
      (form = .count ∧ ∃ given, countProperty node name = .ok given) := by
  cases place
  case lease =>
    rcases read with ⟨before, after, read⟩
    rcases parts_of_ok read with ⟨duration, durationRead, read⟩
    rcases parts_of_ok read with ⟨heartbeat, heartbeatRead, read⟩
    rcases parts_of_ok read with ⟨maxAttempts, attemptsRead, read⟩
    rcases parts_of_ok read with ⟨scanInterval, scanRead, _⟩
    unfold property? at asked
    split at asked
    all_goals first | contradiction | cases asked
    · exact .inl ⟨rfl, duration, durationRead⟩
    · exact .inl ⟨rfl, heartbeat, heartbeatRead⟩
    · exact .inr ⟨rfl, maxAttempts, attemptsRead⟩
    · exact .inl ⟨rfl, scanInterval, scanRead⟩
  case build =>
    unfold property? at asked
    split at asked
    all_goals first | contradiction | cases asked
    exact .inl ⟨rfl, read⟩
  case api =>
    rcases read with ⟨before, after, read⟩
    unfold property? at asked
    split at asked
    all_goals first | contradiction | cases asked
    · cases reported
    · cases reported
    · rcases parts_of_readApi read with ⟨given, there, _⟩
      exact .inl ⟨rfl, given, there⟩
  all_goals
    unfold property? at asked
    split at asked
    all_goals first | contradiction | (cases asked; cases reported)

/-- A node that has been read has no misfit that is reported. -/
theorem Place.not_misfit_of_read (read : place.Read node) (checks : place.Checks slot) :
    ¬ Misfit place slot node := by
  rintro ⟨form, value, asked, given, bad⟩
  cases slot with
  | argument index =>
      rcases checks with ⟨rfl, needed⟩
      have text : form = .text := by
        rw [form?] at asked
        split at asked
        · cases asked
        · exact (Option.some.inj asked).symm
      subst text
      have absent := firstString?_eq_none given bad
      simp only [List.mem_cons, List.not_mem_nil, or_false] at needed
      rcases needed with rfl | rfl | rfl
      · exact read absent
      · rcases read with ⟨environment, read⟩
        rw [readEnvironment, absent] at read
        cases read
      · rcases read with ⟨webhook, read⟩
        rw [readWebhook, absent] at read
        cases read
  | property name =>
      rcases checks with ⟨rfl, rfl⟩ | ⟨form', asked', reported⟩
      · cases asked
        rcases read with ⟨worker, read⟩
        rw [readWorker, stringProperty?_eq_none given bad] at read
        cases read
      · cases asked.symm.trans asked'
        rcases reported_of_read read asked reported with ⟨rfl, span, read⟩ | ⟨rfl, count, read⟩
        · exact durationProperty_ne_ok given bad span read
        · exact countProperty_ne_ok given bad count read

/-! ## Settings that do what the document asks for -/

def commandNode? (worker : Node) : Option Node :=
  (childrenOf worker "environment").getLast?.bind fun environment =>
    (childrenOf environment "command").getLast?

/-- The interface is protected, notifications are signed and commands are complete wherever
the document gives a token, a secret and words. -/
structure Honours (settings : Settings) (document : Kdl.Document) : Prop where
  token : ∀ node ∈ Section.api.nodes document, node.property? "token" ≠ none →
    settings.api.token ≠ none
  /-- Only the last node about notifications counts. -/
  secrets : ∀ notify, (Section.notify.nodes document).getLast? = some notify →
    List.Forall₂ (fun child webhook => child.property? "secret" ≠ none → webhook.secret ≠ none)
      (childrenOf notify "webhook") settings.notify.webhooks
  words : ∀ node ∈ Section.worker.nodes document, ∀ worker, settings.worker = some worker →
    worker.environment.words.length =
      ((commandNode? node).map (·.arguments.length)).getD 0

/-- Tokens, secrets and words are texts, and the last interface node gives a token if any does. -/
structure Legible (document : Kdl.Document) : Prop where
  token : ∀ node ∈ Section.api.nodes document, node.property? "token" ≠ none →
    ∃ last ∈ (Section.api.nodes document).getLast?, last.property? "token" ≠ none ∧
      ¬ Misfit .api (.property "token") last
  secrets : ∀ notify, (Section.notify.nodes document).getLast? = some notify →
    ∀ child ∈ childrenOf notify "webhook", ¬ Misfit .webhook (.property "secret") child
  words : ∀ node ∈ Section.worker.nodes document, ∀ child, commandNode? node = some child →
    ∀ index, ¬ Misfit .command (.argument index) child

theorem stringProperty?_ne_none_iff (asked : place.property? name = some .text) :
    stringProperty? node name ≠ none ↔
      node.property? name ≠ none ∧ ¬ Misfit place (.property name) node := by
  constructor
  · intro there
    constructor
    · intro absent
      rw [stringProperty?, absent] at there
      exact there rfl
    · rintro ⟨form, value, asked', given, bad⟩
      cases asked.symm.trans asked'
      exact there (stringProperty?_eq_none given bad)
  · rintro ⟨there, fits⟩ absent
    rcases Option.ne_none_iff_exists'.mp there with ⟨value, given⟩
    rw [stringProperty?, given, Option.bind_some] at absent
    refine fits ⟨.text, value, asked, given, ?_⟩
    rw [Form.admits_text, absent]
    rfl

theorem length_allStrings_iff (asked : place.arguments ≠ .none) :
    (allStrings node).length = node.arguments.length ↔
      ∀ index, ¬ Misfit place (.argument index) node := by
  rw [allStrings, List.filterMap_length_eq_length]
  constructor
  · rintro texts index ⟨form, value, asked', given, bad⟩
    have text : form = .text := by
      rw [Place.form?, if_neg asked] at asked'
      exact (Option.some.inj asked').symm
    subst text
    have isText := texts value (List.mem_of_getElem? given)
    rw [Form.admits_text, isText] at bad
    cases bad
  · intro fits value member
    rcases List.mem_iff_getElem?.mp member with ⟨index, given⟩
    by_contra noText
    refine fits index ⟨.text, value, by rw [Place.form?, if_neg asked], given, ?_⟩
    rw [Form.admits_text]
    simpa using noText

/-! ### Tokens -/

theorem token_honoured_iff (accepted : ofDocument document = .ok settings) :
    settings.api.token ≠ none ↔ ∃ last ∈ (Section.api.nodes document).getLast?,
      last.property? "token" ≠ none ∧ ¬ Misfit .api (.property "token") last := by
  rw [token_of_accepted accepted]
  cases (Section.api.nodes document).getLast? with
  | none => simp
  | some last =>
      have iff : token? last ≠ none ↔ _ :=
        stringProperty?_ne_none_iff (show Place.api.property? "token" = some .text from rfl)
      simpa using iff

/-! ### Secrets -/

theorem notify_of_accepted (accepted : ofDocument document = .ok settings) {notify : Node}
    (last : (Section.notify.nodes document).getLast? = some notify) :
    readNotify notify = .ok settings.notify := by
  rcases sections_of_accepted accepted with ⟨draft, checked, sections⟩
  rw [(of_ofDraft checked).2.2.1]
  have read := sections .notify
  rcases List.getLast?_eq_some_iff.mp last with ⟨earlier, split⟩
  rw [split, List.foldlM_append] at read
  rcases parts_of_ok read with ⟨before, _, read⟩
  rw [List.foldlM_cons] at read
  rcases parts_of_ok read with ⟨after, read, made⟩
  cases made
  exact read

theorem secret_of_readWebhook {webhook : WebhookSettings} (read : readWebhook node = .ok webhook) :
    webhook.secret = stringProperty? node "secret" := by
  rcases parts_of_ok read with ⟨text, _, read⟩
  split at read
  · cases read
    rfl
  · cases read

theorem secrets_of_readWebhook {children : List Node} {webhooks : List WebhookSettings}
    (read : List.Forall₂ (fun child webhook => readWebhook child = .ok webhook) children webhooks) :
    List.Forall₂ (fun child webhook => child.property? "secret" ≠ none → webhook.secret ≠ none)
        children webhooks ↔
      ∀ child ∈ children, ¬ Misfit .webhook (.property "secret") child := by
  induction read with
  | nil => simp
  | @cons child webhook children webhooks readOne _ induction =>
      rw [List.forall₂_cons, induction, List.forall_mem_cons, secret_of_readWebhook readOne,
        stringProperty?_ne_none_iff (show Place.webhook.property? "secret" = some .text from rfl)]
      refine and_congr_left fun _ => ⟨fun honoured => ?_, fun fits there => ⟨there, fits⟩⟩
      rintro ⟨form, value, asked, given, bad⟩
      have there : child.property? "secret" ≠ none := Option.ne_none_iff_exists'.mpr ⟨value, given⟩
      exact (honoured there).2 ⟨form, value, asked, given, bad⟩

theorem secrets_honoured_iff (accepted : ofDocument document = .ok settings) {notify : Node}
    (last : (Section.notify.nodes document).getLast? = some notify) :
    List.Forall₂ (fun child webhook => child.property? "secret" ≠ none → webhook.secret ≠ none)
        (childrenOf notify "webhook") settings.notify.webhooks ↔
      ∀ child ∈ childrenOf notify "webhook", ¬ Misfit .webhook (.property "secret") child := by
  rcases parts_of_ok (notify_of_accepted accepted last) with ⟨webhooks, readEach, made⟩
  rw [← Except.ok.inj made]
  exact secrets_of_readWebhook (forall₂_of_mapM_ok readEach)

/-! ### Words -/

theorem words_of_readEnvironment {environment : EnvironmentSettings}
    (read : readEnvironment node = .ok environment) :
    environment.words = ((childrenOf node "command").getLast?.map allStrings).getD [] := by
  unfold readEnvironment at read
  dsimp only at read
  split at read
  · split at read
    · cases read
    · cases read
      rfl
  · rcases parts_of_ok read with ⟨image, _, made⟩
    cases made
    rfl
  · cases read

theorem getLast?_of_forall₂ {α β : Type} {related : α → β → Prop} {values : List α}
    {results : List β} (pairs : List.Forall₂ related values results) {result : β}
    (last : results.getLast? = some result) :
    ∃ value, values.getLast? = some value ∧ related value result := by
  rw [List.getLast?_eq_head?_reverse] at last ⊢
  have backwards := List.forall₂_reverse_iff.mpr pairs
  generalize values.reverse = values', results.reverse = results' at backwards last
  cases backwards with
  | nil => cases last
  | @cons value _ _ _ first _ =>
      cases last
      exact ⟨value, rfl, first⟩

theorem words_of_readWorker {worker : WorkerSettings} (read : readWorker node = .ok worker) :
    worker.environment.words = ((commandNode? node).map allStrings).getD [] := by
  rcases parts_of_ok read with ⟨target, _, read⟩
  rcases parts_of_ok read with ⟨environments, readEach, read⟩
  rcases parts_of_ok read with ⟨environment, there, made⟩
  cases made
  rcases getLast?_of_forall₂ (forall₂_of_mapM_ok readEach) (eq_some_of_require there) with
    ⟨child, last, readLast⟩
  rw [words_of_readEnvironment readLast, commandNode?, last, Option.bind_some]

/-- An accepted document has one worker at most. -/
theorem worker_of_accepted (accepted : ofDocument document = .ok settings)
    (member : node ∈ Section.worker.nodes document) :
    ∃ worker, settings.worker = some worker ∧ readWorker node = .ok worker := by
  rcases sections_of_accepted accepted with ⟨draft, checked, sections⟩
  rw [(of_ofDraft checked).2.1]
  have read : (Section.worker.nodes document).foldlM Section.worker.read none = .ok draft.worker :=
    sections .worker
  generalize Section.worker.nodes document = workers, draft.worker = result at member read ⊢
  cases workers with
  | nil => cases member
  | cons first rest =>
      rcases parts_of_ok read with ⟨one, readFirst, others⟩
      rcases of_map_ok readFirst with ⟨worker, itsRead, rfl⟩
      cases rest with
      | nil =>
          cases others
          rw [List.mem_singleton.mp member]
          exact ⟨worker, rfl, itsRead⟩
      | cons second rest =>
          rcases parts_of_ok others with ⟨two, readSecond, _⟩
          cases readSecond

theorem words_honoured_iff (accepted : ofDocument document = .ok settings)
    (member : node ∈ Section.worker.nodes document) :
    (∀ worker, settings.worker = some worker → worker.environment.words.length =
        ((commandNode? node).map (·.arguments.length)).getD 0) ↔
      ∀ child, commandNode? node = some child →
        ∀ index, ¬ Misfit .command (.argument index) child := by
  rcases worker_of_accepted accepted member with ⟨worker, described, read⟩
  have words := words_of_readWorker read
  cases command : commandNode? node with
  | none => simp [described, words, command]
  | some child =>
      have complete := @length_allStrings_iff child .command nofun
      simp [described, words, command, complete]

/-! ## Whole documents -/

/-- A count, a duration or a value that a node needs is reported if it does not fit. All
other misfits are as if the document did not give them: it reads as the document without them
does. So accepted settings honour the document if and only if token, secrets and words are
legible. -/
theorem misfits_reported_or_passed_over (document : Kdl.Document) :
    (∀ place slot node, Holds document place node → place.Checks slot → Misfit place slot node →
      ∃ fault, ofDocument document = .error fault) ∧
    (∀ place slot node, Holds (withoutMisfits document) place node →
      (∀ form ∈ place.form? slot, form.reported = false) → ¬ Misfit place slot node) ∧
    ofDocument (withoutMisfits document) = ofDocument document ∧
    ∀ settings, ofDocument document = .ok settings →
      (settings.Honours document ↔ Legible document) := by
  refine ⟨?_, fun _ slot _ holds => (fits_of_holds holds).2 slot,
    ofDocument_withoutMisfits document, ?_⟩
  · intro place slot node holds checks misfit
    cases result : ofDocument document with
    | error fault => exact ⟨fault, rfl⟩
    | ok settings =>
        have read := read_of_holds result holds
        exact absurd misfit (Place.not_misfit_of_read read checks)
  · intro settings accepted
    have token := token_honoured_iff accepted
    constructor
    · intro honours
      exact ⟨fun node member there => token.mp (honours.token node member there),
        fun notify last => (secrets_honoured_iff accepted last).mp (honours.secrets notify last),
        fun node member => (words_honoured_iff accepted member).mp (honours.words node member)⟩
    · intro legible
      exact ⟨fun node member there => token.mpr (legible.token node member there),
        fun notify last => (secrets_honoured_iff accepted last).mpr (legible.secrets notify last),
        fun node member => (words_honoured_iff accepted member).mpr (legible.words node member)⟩

/-- Some values of the settings that a text holds. -/
theorem values_of_ofText {α : Type} {text : String} {values : Settings → α} {expected : α}
    (isDocument : Kdl.Document.ofText? text = some document)
    (same : (ofDocument document).toOption.map values = some expected) :
    ∃ settings, ofText text = .ok settings ∧ values settings = expected := by
  rw [ofText_eq_ofDocument isDocument]
  generalize ofDocument document = read at same
  cases read with
  | error fault => cases same
  | ok settings => exact ⟨settings, rfl, Option.some.inj same⟩

def guards (settings : Settings) : Option String × List (Option String) × Option (List String) :=
  (settings.api.token, settings.notify.webhooks.map (·.secret),
    settings.worker.map (·.environment.words))

end Settings

/-! ## Sample configurations -/

namespace Sample

/-- A token, a secret and a command. -/
def guardedText : String :=
  "api token=t0ken\n" ++
  "targets amd64\n" ++
  "notify \x7b webhook \"https://ci.test/hook\" secret=s3cret \x7d\n" ++
  "worker target=amd64 \x7b environment process \x7b command make \"-j\" \"4\" \x7d \x7d"

/-- The same, each time with one value that is no text. -/
def unguardedText : String :=
  "api token=1234\n" ++
  "targets amd64\n" ++
  "notify \x7b webhook \"https://ci.test/hook\" secret=1234 \x7d\n" ++
  "worker target=amd64 \x7b environment process \x7b command make \"-j\" 4 \x7d \x7d"

/-- A document with this token, this secret and this last word of the command. -/
def guarding (token secret word : Kdl.Value) : Kdl.Document := [
  .mk "api" [⟨some "token", token⟩] [],
  .mk "targets" (words ["amd64"]) [],
  .mk "notify" [] [
    .mk "webhook" (words ["https://ci.test/hook"] ++ [⟨some "secret", secret⟩]) []],
  .mk "worker" [⟨some "target", .string "amd64"⟩] [
    .mk "environment" (words ["process"]) [
      .mk "command" (words ["make", "-j"] ++ [⟨none, word⟩]) []]]]

def guardedDocument : Kdl.Document := guarding (.string "t0ken") (.string "s3cret") (.string "4")

def unguardedDocument : Kdl.Document := guarding (.integer 1234) (.integer 1234) (.integer 4)

/-- A number of attempts that is a text. -/
def miscountText : String := "lease max-attempts=\"3\"\ntargets amd64"

def miscountNode : Kdl.Node := .mk "lease" [⟨some "max-attempts", .string "3"⟩] []

def miscountDocument : Kdl.Document := [miscountNode, .mk "targets" (words ["amd64"]) []]

end Sample

theorem Settings.sample_misfits_told :
    (Kdl.Document.ofText? Sample.miscountText = some Sample.miscountDocument ∧
      Holds Sample.miscountDocument .lease Sample.miscountNode ∧
      Place.lease.Checks (.property "max-attempts") ∧
      Misfit .lease (.property "max-attempts") Sample.miscountNode ∧
      ∃ fault, ofDocument Sample.miscountDocument = .error fault) ∧
    Kdl.Document.ofText? Sample.guardedText = some Sample.guardedDocument ∧
      Legible Sample.guardedDocument ∧ ∃ settings, ofText Sample.guardedText = .ok settings ∧
        settings.Honours Sample.guardedDocument ∧
        settings.guards = (some "t0ken", [some "s3cret"], some ["make", "-j", "4"]) := by
  have holds : Holds Sample.miscountDocument .lease Sample.miscountNode :=
    .child .whole List.mem_cons_self rfl
  have checks : Place.lease.Checks (.property "max-attempts") := .inr ⟨.count, rfl, rfl⟩
  have misfit : Misfit .lease (.property "max-attempts") Sample.miscountNode := by decide +kernel
  have isDocument : Kdl.Document.ofText? Sample.guardedText = some Sample.guardedDocument := by
    decide +kernel
  have legible : Legible Sample.guardedDocument := by
    refine ⟨fun _ _ _ => ?_, fun notify last => ?_, fun node member child command => ?_⟩
    · have apis : Section.api.nodes Sample.guardedDocument = [Sample.guardedDocument[0]] := by
        decide +kernel
      rw [apis]
      exact ⟨_, rfl, by decide +kernel, by decide +kernel⟩
    · have notifies : Section.notify.nodes Sample.guardedDocument =
        [Sample.guardedDocument[2]] := by decide +kernel
      rw [notifies] at last
      cases last
      decide +kernel
    · have workers : Section.worker.nodes Sample.guardedDocument =
        [Sample.guardedDocument[3]] := by decide +kernel
      rw [workers, List.mem_singleton] at member
      subst member
      have complete : ∀ child ∈ commandNode? Sample.guardedDocument[3],
        (allStrings child).length = child.arguments.length := by decide +kernel
      have iff := @length_allStrings_iff child .command nofun
      exact iff.mp (complete child command)
  rcases misfits_reported_or_passed_over Sample.miscountDocument with ⟨reported, _⟩
  rcases misfits_reported_or_passed_over Sample.guardedDocument with ⟨_, _, _, honours⟩
  have accepts : ∃ settings, ofText Sample.guardedText = .ok settings ∧
      settings.guards = (some "t0ken", [some "s3cret"], some ["make", "-j", "4"]) :=
    values_of_ofText isDocument (by decide +kernel)
  rcases accepts with ⟨settings, accepted, guarded⟩
  have fromDocument := accepted
  rw [ofText_eq_ofDocument isDocument] at fromDocument
  exact ⟨⟨by decide +kernel, holds, checks, misfit, reported _ _ _ holds checks misfit⟩,
    isDocument, legible, settings, accepted, (honours settings fromDocument).mpr legible, guarded⟩

/-- A token, a secret and a word that are numbers are accepted, and not there: the interface
is open, the notification is not signed, and the command has one word less. -/
theorem Settings.sample_misfits_pass :
    Kdl.Document.ofText? Sample.unguardedText = some Sample.unguardedDocument ∧
      (∃ node, Holds Sample.unguardedDocument .api node ∧
        Misfit .api (.property "token") node) ∧
      (∃ node, Holds Sample.unguardedDocument .webhook node ∧
        Misfit .webhook (.property "secret") node) ∧
      (∃ node, Holds Sample.unguardedDocument .command node ∧
        Misfit .command (.argument 2) node) ∧
      ∃ settings, ofText Sample.unguardedText = .ok settings ∧
        settings.guards = (none, [none], some ["make", "-j"]) := by
  have within : ∀ node ∈ Sample.unguardedDocument, ∀ {place : Place},
      Place.document.inner node.name = some place →
      Holds Sample.unguardedDocument place node :=
    fun node member _ named => .child .whole member named
  have notify : Holds Sample.unguardedDocument .notify Sample.unguardedDocument[2] :=
    within _ (by decide +kernel) rfl
  have worker : Holds Sample.unguardedDocument .worker Sample.unguardedDocument[3] :=
    within _ (by decide +kernel) rfl
  have isDocument : Kdl.Document.ofText? Sample.unguardedText = some Sample.unguardedDocument := by
    decide +kernel
  refine ⟨isDocument, ⟨Sample.unguardedDocument[0], ?_, by decide +kernel⟩,
    ⟨Sample.unguardedDocument[2].children[0], ?_, by decide +kernel⟩,
    ⟨Sample.unguardedDocument[3].children[0].children[0], ?_, by decide +kernel⟩,
    values_of_ofText isDocument (by decide +kernel)⟩
  · exact within _ List.mem_cons_self rfl
  · exact .child notify List.mem_cons_self rfl
  · exact .child (.child worker List.mem_cons_self rfl) List.mem_cons_self rfl

end BuildFleet
