import BuildFleet.Proofs.Settings.Sections

/-!
# Places of settings

Each place of a document has settings of its own, as arguments or properties, and each
setting has a form. A value of another form is a misfit. Texts, true and false that do not
fit are passed over: the document reads as if they were not there. Counts and durations that
do not fit are left to the reader, which reports them.
-/

namespace BuildFleet

namespace Settings

open Kdl (Node Entry Value)

/-- What kind of value a setting has. -/
inductive Form where
  | text | flag | count | duration
deriving DecidableEq

namespace Form

/-- Durations are numbers of seconds, or texts with a unit. -/
def admits : Form → Value → Bool
  | text, .string _ => true
  | flag, .bool _ => true
  | count, .integer _ => true
  | duration, .integer _ => true
  | duration, .string _ => true
  | _, _ => false

/-- The forms that are looked at with an error at hand. -/
def reported : Form → Bool
  | count => true
  | duration => true
  | _ => false

theorem admits_text (value : Value) : text.admits value = value.string?.isSome := by
  cases value <;> rfl

theorem admits_flag (value : Value) : flag.admits value = value.bool?.isSome := by
  cases value <;> rfl

end Form

/-- How much a place takes from the arguments of its nodes. All arguments are texts. -/
inductive Arguments where
  | none | first | all
deriving DecidableEq

/-- Where in a document a node is. -/
inductive Place where
  | document | store | lease | build | targets | group | worker | environment | command | image
  | workdir | notify | webhook | api
deriving DecidableEq

/-- Where in a node a setting is. -/
inductive Slot where
  | argument (index : Nat)
  | property (name : String)

namespace Place

/-- The place of nodes inside another one, by their name. -/
def inner : Place → String → Option Place
  | document, "store" => some store
  | document, "lease" => some lease
  | document, "build" => some build
  | document, "targets" => some targets
  | document, "group" => some group
  | document, "worker" => some worker
  | document, "notify" => some notify
  | document, "api" => some api
  | worker, "environment" => some environment
  | environment, "command" => some command
  | environment, "image" => some image
  | environment, "workdir" => some workdir
  | notify, "webhook" => some webhook
  | _, _ => none

def arguments : Place → Arguments
  | store | environment | image | workdir | webhook => .first
  | targets | group | command => .all
  | _ => .none

def property? : Place → String → Option Form
  | lease, "duration" => some .duration
  | lease, "heartbeat" => some .duration
  | lease, "max-attempts" => some .count
  | lease, "scan-interval" => some .duration
  | build, "timeout" => some .duration
  | worker, "target" => some .text
  | worker, "hostname" => some .text
  | notify, "log" => some .flag
  | webhook, "secret" => some .text
  | api, "listen" => some .text
  | api, "token" => some .text
  | api, "worker-offline" => some .duration
  | _, _ => none

def form? (place : Place) : Slot → Option Form
  | .argument _ => if place.arguments = .none then none else some .text
  | .property name => place.property? name

end Place

/-- What a node gives as a setting. -/
def given? (node : Node) : Slot → Option Value
  | .argument index => node.arguments[index]?
  | .property name => node.property? name

/-- A node gives a setting of its place a value of another form. -/
def Misfit (place : Place) (slot : Slot) (node : Node) : Prop :=
  ∃ form value, place.form? slot = some form ∧ given? node slot = some value ∧
    form.admits value = false

instance {place : Place} {slot : Slot} {node : Node} : Decidable (Misfit place slot node) :=
  decidable_of_iff (∃ form ∈ place.form? slot, ∃ value ∈ given? node slot,
    form.admits value = false) (by simp [Misfit])

/-- The nodes of a document at each place. The document stands for the node around them. -/
inductive Holds (document : Kdl.Document) : Place → Node → Prop
  | whole : Holds document .document (.mk "" [] document)
  | child {outer place : Place} {node child : Node} (within : Holds document outer node)
      (member : child ∈ node.children) (named : outer.inner child.name = some place) :
      Holds document place child

/-! ## Documents without misfits -/

namespace Place

/-- Whether an entry stays. With the first argument, if only that is read, all of them go. -/
def keeps (place : Place) (node : Node) (entry : Entry) : Bool :=
  match entry.name with
  | some name => (place.property? name).all fun form =>
      form.reported || (node.property? name).all form.admits
  | none =>
    match place.arguments with
    | .none => true
    | .first => node.arguments.head?.all Form.text.admits && Form.text.admits entry.value
    | .all => Form.text.admits entry.value

mutual

/-- A node without the texts, true and false that do not fit. -/
def withoutMisfits (place : Place) : Node → Node
  | .mk name entries children =>
    .mk name (entries.filter (place.keeps (.mk name entries children)))
      (withoutMisfitsEach place children)

def withoutMisfitsEach (place : Place) : List Node → List Node
  | [] => []
  | child :: rest =>
    (match place.inner child.name with
      | some inner => withoutMisfits inner child
      | none => child) :: withoutMisfitsEach place rest

end

variable {place inside : Place} {node : Node} {nodes : List Node} {name : String}

def inward (place : Place) (child : Node) : Node :=
  match place.inner child.name with
  | some inner => inner.withoutMisfits child
  | none => child

theorem withoutMisfitsEach_eq_map : place.withoutMisfitsEach nodes = nodes.map place.inward := by
  induction nodes with
  | nil => simp [withoutMisfitsEach]
  | cons child rest induction => simp [withoutMisfitsEach, induction, inward]

@[simp] theorem name_withoutMisfits : (place.withoutMisfits node).name = node.name := by
  cases node
  simp [withoutMisfits, Node.name]

@[simp] theorem name_inward : (place.inward node).name = node.name := by
  unfold inward
  split <;> simp

theorem entries_withoutMisfits :
    (place.withoutMisfits node).entries = node.entries.filter (place.keeps node) := by
  cases node
  simp [withoutMisfits, Node.entries]

theorem children_withoutMisfits :
    (place.withoutMisfits node).children = node.children.map place.inward := by
  cases node
  simp [withoutMisfits, Node.children, withoutMisfitsEach_eq_map]

theorem childrenOf_withoutMisfits (named : place.inner name = some inside) :
    childrenOf (place.withoutMisfits node) name =
      (childrenOf node name).map inside.withoutMisfits := by
  rw [childrenOf, children_withoutMisfits, List.filter_map, childrenOf]
  have same : (fun child : Node => child.name == name) ∘ place.inward = (·.name == name) := by
    funext child
    simp
  rw [same]
  apply List.map_congr_left
  intro child member
  have itsName : child.name = name := by simpa using (List.mem_filter.mp member).2
  simp [inward, itsName, named]

theorem property?_withoutMisfits : (place.withoutMisfits node).property? name =
    if (place.property? name).all fun form =>
        form.reported || (node.property? name).all form.admits
      then node.property? name else none := by
  -- Entries of one name stay or go together.
  have kept : ∀ entry : Entry, entry.name = some name → place.keeps node entry =
      (place.property? name).all fun form =>
        form.reported || (node.property? name).all form.admits := by
    intro entry named
    rw [keeps, named]
  rw [Node.property?, entries_withoutMisfits, ← List.filter_reverse, List.find?_filter]
  split
  · rename_i stays
    rw [Node.property?]
    congr 1
    congr 1
    funext entry
    by_cases named : entry.name = some name
    · simp [named, kept entry named, stays]
    · simp [named]
  · rename_i goes
    rw [Option.map_eq_none_iff, List.find?_eq_none]
    intro entry _ both
    simp only [decide_eq_true_eq, beq_iff_eq] at both
    exact goes (kept entry both.2 ▸ both.1)

theorem arguments_withoutMisfits : (place.withoutMisfits node).arguments =
    match place.arguments with
    | .none => node.arguments
    | .first =>
      node.arguments.filter fun value =>
        node.arguments.head?.all Form.text.admits && Form.text.admits value
    | .all => node.arguments.filter Form.text.admits := by
  have moved : (place.withoutMisfits node).arguments =
      ((node.entries.filter (·.name.isNone)).filter (place.keeps node)).map (·.value) := by
    rw [Node.arguments, entries_withoutMisfits, List.filter_filter, List.filter_filter]
    simp only [Bool.and_comm]
  have unnamed : ∀ entry ∈ node.entries.filter (·.name.isNone), entry.name = none := by
    intro entry member
    simpa using (List.mem_filter.mp member).2
  rw [moved]
  cases arguments : place.arguments with
  | none =>
      rw [List.filter_eq_self.mpr]
      · rfl
      · intro entry member
        simp [keeps, unnamed entry member, arguments]
  | first =>
      simp only [Node.arguments, List.filter_map]
      congr 1
      apply List.filter_congr
      intro entry member
      simp [keeps, unnamed entry member, arguments, Node.arguments]
  | all =>
      simp only [Node.arguments, List.filter_map]
      congr 1
      apply List.filter_congr
      intro entry member
      simp [keeps, unnamed entry member, arguments]

/-- No misfits are left but those that are reported. -/
theorem not_misfit_withoutMisfits {slot : Slot}
    (silent : ∀ form ∈ place.form? slot, form.reported = false) :
    ¬ Misfit place slot (place.withoutMisfits node) := by
  rintro ⟨form, value, asked, given, bad⟩
  have unreported := silent form asked
  cases slot with
  | property name =>
      rw [form?] at asked
      rw [given?, property?_withoutMisfits, asked] at given
      split at given
      · rename_i stays
        simp [given, unreported, bad] at stays
      · cases given
  | argument index =>
      have member := List.mem_of_getElem? given
      rw [arguments_withoutMisfits] at member
      rw [form?] at asked
      split at asked
      · cases asked
      · rename_i some
        cases asked
        split at member
        · rename_i none
          exact some none
        · simp [bad] at member
        · simp [bad] at member

/-! ## What is read without misfits -/

theorem bind_property?_withoutMisfits {α : Type} {form : Form} {read : Value → Option α}
    (asked : place.property? name = some form)
    (fits : ∀ value, form.admits value = (read value).isSome) :
    ((place.withoutMisfits node).property? name).bind read =
      (node.property? name).bind read := by
  rw [property?_withoutMisfits, asked]
  cases given : node.property? name with
  | none => simp
  | some value =>
      split
      · rfl
      · rename_i goes
        have unread : form.reported = false ∧ read value = none := by simpa [fits] using goes
        simp [unread.2]

theorem stringProperty?_withoutMisfits (asked : place.property? name = some .text) :
    stringProperty? (place.withoutMisfits node) name = stringProperty? node name :=
  bind_property?_withoutMisfits asked Form.admits_text

theorem boolProperty?_withoutMisfits (asked : place.property? name = some .flag) :
    boolProperty? (place.withoutMisfits node) name = boolProperty? node name :=
  bind_property?_withoutMisfits asked Form.admits_flag

theorem property?_of_reported {form : Form} (asked : place.property? name = some form)
    (reported : form.reported = true) :
    (place.withoutMisfits node).property? name = node.property? name := by
  simp [property?_withoutMisfits, asked, reported]

theorem durationProperty_withoutMisfits (asked : place.property? name = some .duration) :
    durationProperty (place.withoutMisfits node) name = durationProperty node name := by
  rw [durationProperty, property?_of_reported asked rfl, durationProperty]

theorem countProperty_withoutMisfits (asked : place.property? name = some .count) :
    countProperty (place.withoutMisfits node) name = countProperty node name := by
  rw [countProperty, property?_of_reported asked rfl, countProperty]

theorem allStrings_withoutMisfits (all : place.arguments = .all) :
    allStrings (place.withoutMisfits node) = allStrings node := by
  rw [allStrings, arguments_withoutMisfits, all, List.filterMap_filter, allStrings]
  apply List.filterMap_congr
  intro value _
  cases value <;> rfl

theorem firstString?_withoutMisfits (first : place.arguments = .first) :
    firstString? (place.withoutMisfits node) = firstString? node := by
  rw [firstString?, arguments_withoutMisfits, first, firstString?]
  cases node.arguments with
  | nil => rfl
  | cons value rest => cases value <;> simp [Form.admits, Value.string?]

theorem readLease_withoutMisfits (lease : LeaseSettings) :
    readLease lease (Place.lease.withoutMisfits node) = readLease lease node := by
  rw [readLease, durationProperty_withoutMisfits rfl, durationProperty_withoutMisfits rfl,
    countProperty_withoutMisfits rfl, durationProperty_withoutMisfits rfl, readLease]

theorem readGroup_withoutMisfits : readGroup (group.withoutMisfits node) = readGroup node := by
  rw [readGroup, allStrings_withoutMisfits rfl, readGroup]

theorem firstString?_of_map (first : place.arguments = .first) (child : Option Node) :
    (child.map place.withoutMisfits).bind firstString? = child.bind firstString? := by
  cases child with
  | none => rfl
  | some child => exact firstString?_withoutMisfits first

theorem readEnvironment_withoutMisfits :
    readEnvironment (environment.withoutMisfits node) = readEnvironment node := by
  have kind : firstString? (environment.withoutMisfits node) = firstString? node :=
    firstString?_withoutMisfits rfl
  have commands : childrenOf (environment.withoutMisfits node) "command" =
    (childrenOf node "command").map command.withoutMisfits := childrenOf_withoutMisfits rfl
  have images : childrenOf (environment.withoutMisfits node) "image" =
    (childrenOf node "image").map image.withoutMisfits := childrenOf_withoutMisfits rfl
  have directories : childrenOf (environment.withoutMisfits node) "workdir" =
    (childrenOf node "workdir").map workdir.withoutMisfits := childrenOf_withoutMisfits rfl
  have words : allStrings ∘ command.withoutMisfits = allStrings := by
    funext child
    exact allStrings_withoutMisfits rfl
  have firstOfImage := @firstString?_of_map image rfl
  have firstOfDirectory := @firstString?_of_map workdir rfl
  simp only [readEnvironment, kind, commands, images, directories, List.getLast?_map,
    Option.map_map, words, firstOfImage, firstOfDirectory]

theorem readWorker_withoutMisfits : readWorker (worker.withoutMisfits node) = readWorker node := by
  have environments : childrenOf (worker.withoutMisfits node) "environment" =
    (childrenOf node "environment").map environment.withoutMisfits := childrenOf_withoutMisfits rfl
  have readEach : readEnvironment ∘ environment.withoutMisfits = readEnvironment := by
    funext child
    exact readEnvironment_withoutMisfits
  rw [readWorker, stringProperty?_withoutMisfits rfl, environments, List.mapM_map, readEach,
    stringProperty?_withoutMisfits rfl, readWorker]

theorem readWebhook_withoutMisfits :
    readWebhook (webhook.withoutMisfits node) = readWebhook node := by
  rw [readWebhook, firstString?_withoutMisfits rfl, stringProperty?_withoutMisfits rfl, readWebhook]

theorem readNotify_withoutMisfits : readNotify (notify.withoutMisfits node) = readNotify node := by
  have webhooks : childrenOf (notify.withoutMisfits node) "webhook" =
    (childrenOf node "webhook").map webhook.withoutMisfits := childrenOf_withoutMisfits rfl
  have readEach : readWebhook ∘ webhook.withoutMisfits = readWebhook := by
    funext child
    exact readWebhook_withoutMisfits
  rw [readNotify, webhooks, List.mapM_map, readEach, boolProperty?_withoutMisfits rfl, readNotify]

theorem readApi_withoutMisfits (before : ApiSettings) :
    readApi before (api.withoutMisfits node) = readApi before node := by
  have listen : stringProperty? (api.withoutMisfits node) "listen" =
    stringProperty? node "listen" := stringProperty?_withoutMisfits rfl
  have token : stringProperty? (api.withoutMisfits node) "token" =
    stringProperty? node "token" := stringProperty?_withoutMisfits rfl
  have workerOffline : durationProperty (api.withoutMisfits node) "worker-offline" =
    durationProperty node "worker-offline" := durationProperty_withoutMisfits rfl
  simp only [readApi, listen, token, workerOffline]

def ofSection : Section → Place
  | .store => store
  | .lease => lease
  | .build => build
  | .targets => targets
  | .group => group
  | .worker => worker
  | .notify => notify
  | .api => api

theorem read_withoutMisfits (part : Section) (before : part.Value) :
    part.read before ((ofSection part).withoutMisfits node) = part.read before node := by
  cases part with
  | store =>
      exact congrArg (fun url => (require url "store url").map some)
        (firstString?_withoutMisfits rfl)
  | lease => exact readLease_withoutMisfits before
  | build => exact congrArg (Except.map _) (durationProperty_withoutMisfits rfl)
  | targets => exact congrArg (addTargets before) (allStrings_withoutMisfits rfl)
  | group => simp only [Section.read, ofSection, readGroup_withoutMisfits]
  | worker => simp only [Section.read, ofSection, readWorker_withoutMisfits]
  | notify => exact readNotify_withoutMisfits
  | api => exact readApi_withoutMisfits before

theorem inner_document (part : Section) : document.inner part.name = some (ofSection part) := by
  cases part <;> rfl

theorem exists_section (named : document.inner name = some inside) :
    ∃ part : Section, name = part.name ∧ inside = ofSection part := by
  unfold inner at named
  split at named
  · exact ⟨.store, rfl, (Option.some.inj named).symm⟩
  · exact ⟨.lease, rfl, (Option.some.inj named).symm⟩
  · exact ⟨.build, rfl, (Option.some.inj named).symm⟩
  · exact ⟨.targets, rfl, (Option.some.inj named).symm⟩
  · exact ⟨.group, rfl, (Option.some.inj named).symm⟩
  · exact ⟨.worker, rfl, (Option.some.inj named).symm⟩
  · exact ⟨.notify, rfl, (Option.some.inj named).symm⟩
  · exact ⟨.api, rfl, (Option.some.inj named).symm⟩
  all_goals contradiction

theorem readNode_inward (draft : Draft) (node : Node) :
    readNode draft (document.inward node) = readNode draft node := by
  unfold inward
  split
  · rename_i inside named
    rcases exists_section named with ⟨part, same, rfl⟩
    have stillNamed : ((ofSection part).withoutMisfits node).name = part.name := by
      rw [name_withoutMisfits, same]
    rw [Section.readNode_eq stillNamed, Section.readNode_eq same, read_withoutMisfits]
  · rfl

end Place

/-- What a document says without the texts, true and false that do not fit. -/
def withoutMisfits (document : Kdl.Document) : Kdl.Document :=
  document.map Place.document.inward

theorem fits_of_holds {document : Kdl.Document} {place : Place} {node : Node}
    (holds : Holds (withoutMisfits document) place node) :
    (∃ children : List Node, node.children = children.map place.inward) ∧
      ∀ slot, (∀ form ∈ place.form? slot, form.reported = false) → ¬ Misfit place slot node := by
  -- What is inside a node that was stripped was stripped as well.
  induction holds with
  | whole =>
      refine ⟨⟨document, rfl⟩, fun slot _ => ?_⟩
      rintro ⟨form, value, asked, _⟩
      cases slot <;> cases asked
  | @child outer place node child _ member named induction =>
      rcases induction.1 with ⟨children, mapped⟩
      rw [mapped] at member
      rcases List.mem_map.mp member with ⟨original, _, rfl⟩
      rw [Place.name_inward] at named
      have stripped : outer.inward original = place.withoutMisfits original := by
        simp [Place.inward, named]
      rw [stripped]
      exact ⟨⟨_, Place.children_withoutMisfits⟩,
        fun slot silent => Place.not_misfit_withoutMisfits silent⟩

/-- A document reads as if it had no such misfits. -/
theorem ofDocument_withoutMisfits (document : Kdl.Document) :
    ofDocument (withoutMisfits document) = ofDocument document := by
  simp only [ofDocument, withoutMisfits, List.foldlM_map, Place.readNode_inward]

end Settings

end BuildFleet
