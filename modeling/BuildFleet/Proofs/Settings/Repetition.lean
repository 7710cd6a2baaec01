import BuildFleet.Proofs.Settings.Rearrangement

/-!
# Repeated nodes

Lease and interface may be set by several nodes. Each setting is to have the value of the
last node that gives it. Two of them do not in every document: an interface node without a
token takes an earlier token away, and a duration puts a third of itself in the place of an
earlier heartbeat. The main statement tells exactly in which documents nothing is lost.
-/

namespace BuildFleet

namespace Settings

open Kdl (Node)

variable {α β : Type} {given? : Node → Option α} {node : Node} {nodes : List Node}
  {document : Kdl.Document} {settings : Settings}

/-! ## The last node that gives a setting -/

/-- What the last of the nodes that give a setting gives. -/
def lastGiven (given? : Node → Option α) (nodes : List Node) : Option α :=
  (nodes.filterMap given?).getLast?

theorem lastGiven_append (given? : Node → Option α) (earlier later : List Node) :
    lastGiven given? (earlier ++ later) =
      (lastGiven given? later).or (lastGiven given? earlier) := by
  rw [lastGiven, List.filterMap_append, List.getLast?_append]
  rfl

theorem lastGiven_cons (given? : Node → Option α) (node : Node) (later : List Node) :
    lastGiven given? (node :: later) = (lastGiven given? later).or (given? node) := by
  rw [← List.singleton_append, lastGiven_append]
  cases given : given? node <;> simp [lastGiven, given]

theorem lastGiven_eq_none_iff :
    lastGiven given? nodes = none ↔ ∀ node ∈ nodes, given? node = none := by
  rw [lastGiven, List.getLast?_eq_none_iff, List.filterMap_eq_nil_iff]

theorem lastGiven_eq_some_iff {value : α} : lastGiven given? nodes = some value ↔
    ∃ before node after, nodes = before ++ node :: after ∧ given? node = some value ∧
      ∀ later ∈ after, given? later = none := by
  constructor
  · intro last
    induction nodes with
    | nil => cases last
    | cons first rest induction =>
        rw [lastGiven_cons] at last
        cases later : lastGiven given? rest with
        | none =>
            rw [later, Option.none_or] at last
            exact ⟨[], first, rest, rfl, last, lastGiven_eq_none_iff.mp later⟩
        | some found =>
            rw [later, Option.some_or] at last
            rcases induction (later.trans last) with ⟨before, node, after, rfl, given, silent⟩
            exact ⟨first :: before, node, after, rfl, given, silent⟩
  · rintro ⟨before, node, after, rfl, given, silent⟩
    rw [lastGiven_append, lastGiven_cons, lastGiven_eq_none_iff.mpr silent, given]
    rfl

/-- Nothing comes after the last node that gives a setting if that is the last of all. -/
theorem after_eq_nil_of_gives {front before after : List Node} {last : Node}
    (split : front ++ [last] = before ++ node :: after) (gives : given? last ≠ none)
    (silent : ∀ later ∈ after, given? later = none) : after = [] := by
  rcases List.eq_nil_or_concat after with rfl | ⟨others, final, rfl⟩
  · rfl
  · rw [List.concat_eq_append, ← List.cons_append, ← List.append_assoc] at split
    rcases List.append_inj' split rfl with ⟨_, same⟩
    cases same
    exact absurd (silent last (by simp)) gives

theorem lastGiven_map (given? : Node → Option α) (change : α → β) (nodes : List Node) :
    lastGiven (fun node => (given? node).map change) nodes =
      (lastGiven given? nodes).map change := by
  induction nodes with
  | nil => rfl
  | cons node rest induction =>
      rw [lastGiven_cons, lastGiven_cons, induction]
      cases lastGiven given? rest <;> rfl

theorem lastGiven_congr {other? : Node → Option α}
    (same : ∀ node ∈ nodes, given? node = other? node) :
    lastGiven given? nodes = lastGiven other? nodes := by
  rw [lastGiven, lastGiven, List.filterMap_congr same]

/-- A setting that every node brings to what it gives, or leaves alone, ends as the last
node that gives it says. -/
theorem field_of_foldlM {ε σ : Type} {read : σ → Node → Except ε σ} (field : σ → α)
    (given? : Node → Option α) (each : ∀ before node after, read before node = .ok after →
      field after = (given? node).getD (field before))
    {first last : σ} (done : nodes.foldlM read first = .ok last) :
    field last = (lastGiven given? nodes).getD (field first) := by
  induction nodes generalizing first with
  | nil =>
      cases done
      rfl
  | cons node rest induction =>
      rw [List.foldlM_cons] at done
      rcases parts_of_ok done with ⟨middle, read, others⟩
      rw [induction others, each first node middle read, lastGiven_cons]
      cases lastGiven given? rest <;> rfl

/-! ## Settings of leases -/

def duration? (name : String) (node : Node) : Option Span :=
  (durationProperty node name).toOption.join

def count? (name : String) (node : Node) : Option Nat := (countProperty node name).toOption.join

/-- The heartbeat that a node brings: the one it gives, else a third of its duration. -/
def rhythm? (node : Node) : Option Span :=
  (duration? "heartbeat" node).or ((duration? "duration" node).map Span.third)

theorem durationProperty_of_ok {name : String} {given : Option Span}
    (read : durationProperty node name = .ok given) : duration? name node = given := by
  rw [duration?, read]
  rfl

theorem countProperty_of_ok {name : String} {given : Option Nat}
    (read : countProperty node name = .ok given) : count? name node = given := by
  rw [count?, read]
  rfl

theorem of_readLease {lease after : LeaseSettings} (read : readLease lease node = .ok after) :
    after.duration = (duration? "duration" node).getD lease.duration ∧
      after.heartbeat = (rhythm? node).getD lease.heartbeat ∧
      after.maxAttempts = (count? "max-attempts" node).getD lease.maxAttempts ∧
      after.scanInterval = (duration? "scan-interval" node).getD lease.scanInterval := by
  rcases parts_of_ok read with ⟨duration, durationRead, read⟩
  rcases parts_of_ok read with ⟨heartbeat, heartbeatRead, read⟩
  rcases parts_of_ok read with ⟨maxAttempts, attemptsRead, read⟩
  rcases parts_of_ok read with ⟨scanInterval, scanRead, read⟩
  cases read
  rw [rhythm?, durationProperty_of_ok durationRead, durationProperty_of_ok heartbeatRead,
    durationProperty_of_ok scanRead, countProperty_of_ok attemptsRead]
  cases duration <;> cases heartbeat <;> exact ⟨rfl, rfl, rfl, rfl⟩

/-! ## Settings of the interface -/

def listen? (node : Node) : Option SocketAddress :=
  (stringProperty? node "listen").bind SocketAddress.ofText?

def token? (node : Node) : Option String := stringProperty? node "token"

theorem parts_of_readApi {api after : ApiSettings} (read : readApi api node = .ok after) :
    ∃ workerOffline, durationProperty node "worker-offline" = .ok workerOffline ∧
      after = ⟨(listen? node).getD api.listen, token? node,
        workerOffline.getD api.workerOffline⟩ := by
  unfold readApi at read
  rw [listen?]
  split at read
  · rename_i absent
    rcases parts_of_ok read with ⟨listen, kept, read⟩
    rcases parts_of_ok read with ⟨workerOffline, offlineRead, made⟩
    cases kept
    cases made
    rw [absent]
    exact ⟨workerOffline, offlineRead, rfl⟩
  · rename_i text given
    split at read
    · rename_i address parsed
      rcases parts_of_ok read with ⟨listen, told, read⟩
      rcases parts_of_ok read with ⟨workerOffline, offlineRead, made⟩
      cases told
      cases made
      rw [given, Option.bind_some, parsed]
      exact ⟨workerOffline, offlineRead, rfl⟩
    · cases read

theorem of_readApi {api after : ApiSettings} (read : readApi api node = .ok after) :
    after.listen = (listen? node).getD api.listen ∧ after.token = token? node ∧
      after.workerOffline = (duration? "worker-offline" node).getD api.workerOffline := by
  rcases parts_of_readApi read with ⟨workerOffline, offlineRead, rfl⟩
  rw [durationProperty_of_ok offlineRead]
  exact ⟨rfl, rfl, rfl⟩

/-! ## Whole documents -/

/-- The settings whose nodes only change them are what the last node that gives them says, or
the default if none does. -/
structure PlainlyMerged (settings : Settings) (document : Kdl.Document) : Prop where
  duration : settings.lease.duration =
    (lastGiven (duration? "duration") (Section.lease.nodes document)).getD
      LeaseSettings.standard.duration
  maxAttempts : settings.lease.maxAttempts =
    (lastGiven (count? "max-attempts") (Section.lease.nodes document)).getD
      LeaseSettings.standard.maxAttempts
  scanInterval : settings.lease.scanInterval =
    (lastGiven (duration? "scan-interval") (Section.lease.nodes document)).getD
      LeaseSettings.standard.scanInterval
  listen : settings.api.listen =
    (lastGiven listen? (Section.api.nodes document)).getD ApiSettings.standard.listen
  workerOffline : settings.api.workerOffline =
    (lastGiven (duration? "worker-offline") (Section.api.nodes document)).getD
      ApiSettings.standard.workerOffline

/-- Every setting of leases and of the interface is what the last node that gives it says. -/
structure Merged (settings : Settings) (document : Kdl.Document) : Prop
    extends settings.PlainlyMerged document where
  token : settings.api.token = lastGiven token? (Section.api.nodes document)
  /-- Without any heartbeat in the document, a third of the lease. -/
  heartbeat : settings.lease.heartbeat =
    (lastGiven (duration? "heartbeat") (Section.lease.nodes document)).getD
      settings.lease.duration.third

/-- No interface node comes after the last one that gives a token. -/
def KeepsToken (document : Kdl.Document) : Prop :=
  ∀ before node after, Section.api.nodes document = before ++ node :: after →
    token? node ≠ none → (∀ later ∈ after, token? later = none) → after = []

/-- No duration comes after the last heartbeat, unless in the same node. -/
def KeepsHeartbeat (document : Kdl.Document) : Prop :=
  ∀ before node after, Section.lease.nodes document = before ++ node :: after →
    duration? "heartbeat" node ≠ none →
    (∀ later ∈ after, duration? "heartbeat" later = none) →
    ∀ later ∈ after, duration? "duration" later = none

theorem leases_read (accepted : ofDocument document = .ok settings) :
    (Section.lease.nodes document).foldlM readLease .standard = .ok settings.lease := by
  rcases sections_of_accepted accepted with ⟨draft, checked, sections⟩
  rw [(of_ofDraft checked).1]
  exact sections .lease

theorem apis_read (accepted : ofDocument document = .ok settings) :
    (Section.api.nodes document).foldlM readApi .standard = .ok settings.api := by
  rcases sections_of_accepted accepted with ⟨draft, checked, sections⟩
  rw [(of_ofDraft checked).2.2.2]
  exact sections .api

/-- The token is that of the last interface node. -/
theorem token_of_accepted (accepted : ofDocument document = .ok settings) :
    settings.api.token = (Section.api.nodes document).getLast?.bind token? := by
  have last := field_of_foldlM ApiSettings.token (fun node => some (token? node))
    (fun _ _ _ read => (of_readApi read).2.1) (apis_read accepted)
  rw [last, lastGiven, List.filterMap_eq_map', List.getLast?_map]
  cases (Section.api.nodes document).getLast? <;> rfl

/-- The heartbeat is what the last node brings that gives a heartbeat or a duration. -/
theorem heartbeat_of_accepted (accepted : ofDocument document = .ok settings) :
    settings.lease.heartbeat =
      (lastGiven rhythm? (Section.lease.nodes document)).getD LeaseSettings.standard.heartbeat := by
  have last := field_of_foldlM LeaseSettings.heartbeat rhythm?
    (fun _ _ _ read => (of_readLease read).2.1) (leases_read accepted)
  exact last

theorem plainlyMerged_of_accepted (accepted : ofDocument document = .ok settings) :
    settings.PlainlyMerged document := by
  have duration := field_of_foldlM LeaseSettings.duration (duration? "duration")
    (fun _ _ _ read => (of_readLease read).1) (leases_read accepted)
  have maxAttempts := field_of_foldlM LeaseSettings.maxAttempts (count? "max-attempts")
    (fun _ _ _ read => (of_readLease read).2.2.1) (leases_read accepted)
  have scanInterval := field_of_foldlM LeaseSettings.scanInterval (duration? "scan-interval")
    (fun _ _ _ read => (of_readLease read).2.2.2) (leases_read accepted)
  have listen := field_of_foldlM ApiSettings.listen listen?
    (fun _ _ _ read => (of_readApi read).1) (apis_read accepted)
  have workerOffline := field_of_foldlM ApiSettings.workerOffline (duration? "worker-offline")
    (fun _ _ _ read => (of_readApi read).2.2) (apis_read accepted)
  exact ⟨duration, maxAttempts, scanInterval, listen, workerOffline⟩

theorem token_merged_iff (accepted : ofDocument document = .ok settings) :
    settings.api.token = lastGiven token? (Section.api.nodes document) ↔ KeepsToken document := by
  rw [token_of_accepted accepted]
  constructor
  · intro merged before node after split gives silent
    rcases Option.ne_none_iff_exists'.mp gives with ⟨token, given⟩
    rw [lastGiven_eq_some_iff.mpr ⟨before, node, after, split, given, silent⟩, split] at merged
    rcases List.eq_nil_or_concat after with rfl | ⟨others, last, rfl⟩
    · rfl
    · have absent : token? last = none := silent last (by simp)
      rw [List.concat_eq_append, ← List.cons_append, ← List.append_assoc, List.getLast?_concat,
        Option.bind_some, absent] at merged
      cases merged
  · intro keeps
    cases merged : lastGiven token? (Section.api.nodes document) with
    | none =>
        refine Option.bind_eq_none_iff.mpr fun node last => ?_
        exact lastGiven_eq_none_iff.mp merged node (List.mem_of_getLast? last)
    | some token =>
        rcases lastGiven_eq_some_iff.mp merged with ⟨before, node, after, split, given, silent⟩
        have alone := keeps before node after split (by simp [given]) silent
        rw [split, alone]
        simpa using given

/-- Without a heartbeat, a third of the last duration counts. -/
theorem lastGiven_rhythm_of_silent
    (silent : ∀ node ∈ nodes, duration? "heartbeat" node = none) :
    lastGiven rhythm? nodes = (lastGiven (duration? "duration") nodes).map Span.third := by
  rw [← lastGiven_map]
  refine lastGiven_congr fun node member => ?_
  rw [rhythm?, silent node member, Option.none_or]

/-- From the last heartbeat on only a duration changes what has been brought. -/
theorem heartbeat_after_last (accepted : ofDocument document = .ok settings)
    {before after : List Node} {beat : Span}
    (split : Section.lease.nodes document = before ++ node :: after)
    (gives : duration? "heartbeat" node = some beat)
    (silent : ∀ later ∈ after, duration? "heartbeat" later = none) :
    settings.lease.heartbeat =
        ((lastGiven (duration? "duration") after).map Span.third).getD beat ∧
      ∀ duration, lastGiven (duration? "duration") after = some duration →
        settings.lease.duration = duration := by
  have brought := heartbeat_of_accepted accepted
  have length := (plainlyMerged_of_accepted accepted).duration
  have brings : rhythm? node = some beat := by rw [rhythm?, gives, Option.some_or]
  rw [split, lastGiven_append, lastGiven_cons] at brought length
  rw [lastGiven_rhythm_of_silent silent, brings] at brought
  constructor
  · rw [brought]
    cases lastGiven (duration? "duration") after <;> rfl
  · intro duration last
    rw [length, last]
    rfl

theorem heartbeat_merged_iff (accepted : ofDocument document = .ok settings) :
    settings.lease.heartbeat =
        (lastGiven (duration? "heartbeat") (Section.lease.nodes document)).getD
          settings.lease.duration.third ↔
      KeepsHeartbeat document ∨
        lastGiven (duration? "heartbeat") (Section.lease.nodes document) =
          some settings.lease.duration.third := by
  constructor
  · intro merged
    by_contra neither
    rcases not_or.mp neither with ⟨lost, different⟩
    unfold KeepsHeartbeat at lost
    simp only [not_forall] at lost
    rcases lost with ⟨before, node, after, split, gives, silent, later, member, retimes⟩
    rcases Option.ne_none_iff_exists'.mp gives with ⟨beat, given⟩
    rcases heartbeat_after_last accepted split given silent with ⟨actual, longest⟩
    have isLast := lastGiven_eq_some_iff.mpr ⟨before, node, after, split, given, silent⟩
    cases last : lastGiven (duration? "duration") after with
    | none => exact retimes (lastGiven_eq_none_iff.mp last later member)
    | some duration =>
        rw [last, Option.map_some, Option.getD_some] at actual
        rw [isLast, Option.getD_some] at merged
        rw [isLast, ← merged, actual, longest duration last] at different
        exact different rfl
  · rintro (keeps | coincides)
    · cases last : lastGiven (duration? "heartbeat") (Section.lease.nodes document) with
      | none =>
          rw [heartbeat_of_accepted accepted,
            lastGiven_rhythm_of_silent (lastGiven_eq_none_iff.mp last),
            (plainlyMerged_of_accepted accepted).duration]
          cases lastGiven (duration? "duration") (Section.lease.nodes document) <;> rfl
      | some beat =>
          rcases lastGiven_eq_some_iff.mp last with ⟨before, node, after, split, given, silent⟩
          have unchanged := keeps before node after split (by simp [given]) silent
          rw [(heartbeat_after_last accepted split given silent).1,
            lastGiven_eq_none_iff.mpr unchanged]
          rfl
    · rcases lastGiven_eq_some_iff.mp coincides with ⟨before, node, after, split, given, silent⟩
      rcases heartbeat_after_last accepted split given silent with ⟨actual, longest⟩
      rw [coincides, Option.getD_some, actual]
      cases last : lastGiven (duration? "duration") after with
      | none => rfl
      | some duration => rw [longest duration last, Option.map_some, Option.getD_some]

/-- Of repeated lease and interface nodes the last one that gives a setting decides about it,
all but the token and the heartbeat in any case. These two hold what the last node that gives
them says if and only if no interface node follows the one with the token, and no duration the
one with the heartbeat, unless that duration happens to ask for the same heartbeat. -/
theorem repeated_nodes_merge_iff (accepted : ofDocument document = .ok settings) :
    settings.PlainlyMerged document ∧
      (settings.Merged document ↔ KeepsToken document ∧ (KeepsHeartbeat document ∨
        lastGiven (duration? "heartbeat") (Section.lease.nodes document) =
          some settings.lease.duration.third)) := by
  have plain := plainlyMerged_of_accepted accepted
  refine ⟨plain, fun merged => ?_, fun kept => ?_⟩
  · exact ⟨(token_merged_iff accepted).mp merged.token,
      (heartbeat_merged_iff accepted).mp merged.heartbeat⟩
  · exact ⟨plain, (token_merged_iff accepted).mpr kept.1,
      (heartbeat_merged_iff accepted).mpr kept.2⟩

end Settings

/-! ## Sample configurations -/

namespace Sample

def number (name : String) (value : Int) : Kdl.Entry := ⟨some name, .integer value⟩

/-- The nodes of a lease and of the interface give different settings. -/
def repeatedText : String :=
  "lease duration=60 max-attempts=2\n" ++
  "api listen=\"127.0.0.1:8080\"\n" ++
  "lease heartbeat=10\n" ++
  "targets amd64\n" ++
  "api token=t0ken worker-offline=30"

def repeatedDocument : Kdl.Document := [
  .mk "lease" [number "duration" 60, number "max-attempts" 2] [],
  .mk "api" [⟨some "listen", .string "127.0.0.1:8080"⟩] [],
  .mk "lease" [number "heartbeat" 10] [],
  .mk "targets" (words ["amd64"]) [],
  .mk "api" [⟨some "token", .string "t0ken"⟩, number "worker-offline" 30] []]

def repeatedSettings : Settings :=
  { storeUrl := none
    lease := ⟨.ofSeconds 60, .ofSeconds 10, 2, .ofSeconds 15⟩
    buildTimeout := .ofSeconds 86400
    targets := ⟨[⟨"amd64"⟩], []⟩
    worker := none
    notify := .standard
    api := ⟨.ipv4 (.ofNat 2130706433) 8080, some "t0ken", .ofSeconds 30⟩ }

theorem repeatedText_document : Kdl.Document.ofText? repeatedText = some repeatedDocument := by
  decide +kernel

theorem repeatedText_accepted : Settings.ofText repeatedText = .ok repeatedSettings :=
  Settings.ofText_eq_ok (by decide +kernel)

end Sample

theorem Settings.sample_repeated_nodes :
    ofText Sample.repeatedText = .ok Sample.repeatedSettings ∧
      KeepsToken Sample.repeatedDocument ∧ KeepsHeartbeat Sample.repeatedDocument ∧
      Sample.repeatedSettings.Merged Sample.repeatedDocument := by
  have accepted := Sample.repeatedText_accepted
  rw [ofText_eq_ofDocument Sample.repeatedText_document] at accepted
  have apis : Section.api.nodes Sample.repeatedDocument =
    [Sample.repeatedDocument[1]] ++ [Sample.repeatedDocument[4]] := by decide +kernel
  have leases : Section.lease.nodes Sample.repeatedDocument =
    [Sample.repeatedDocument[0]] ++ [Sample.repeatedDocument[2]] := by decide +kernel
  have keepsToken : KeepsToken Sample.repeatedDocument := by
    intro before node after split gives silent
    exact after_eq_nil_of_gives (apis.symm.trans split) (by decide +kernel) silent
  have keepsHeartbeat : KeepsHeartbeat Sample.repeatedDocument := by
    intro before node after split gives silent later member
    rw [after_eq_nil_of_gives (leases.symm.trans split) (by decide +kernel) silent] at member
    cases member
  exact ⟨Sample.repeatedText_accepted, keepsToken, keepsHeartbeat,
    (repeated_nodes_merge_iff accepted).2.mpr ⟨keepsToken, .inl keepsHeartbeat⟩⟩

/-! ## Configurations that lose a setting -/

namespace Sample

/-- A token, then an interface node without one. -/
def openedText : String := "api token=t0ken\napi listen=\"127.0.0.1:8080\"\ntargets amd64"

def openedDocument : Kdl.Document := [
  .mk "api" [⟨some "token", .string "t0ken"⟩] [],
  .mk "api" [⟨some "listen", .string "127.0.0.1:8080"⟩] [],
  .mk "targets" (words ["amd64"]) []]

def openedSettings : Settings :=
  { storeUrl := none
    lease := .standard
    buildTimeout := .ofSeconds 86400
    targets := ⟨[⟨"amd64"⟩], []⟩
    worker := none
    notify := .standard
    api := { ApiSettings.standard with listen := .ipv4 (.ofNat 2130706433) 8080 } }

/-- A heartbeat, then a lease node with a duration alone. -/
def slowedText : String := "lease heartbeat=20\nlease duration=90\ntargets amd64"

def slowedDocument : Kdl.Document := [
  .mk "lease" [number "heartbeat" 20] [],
  .mk "lease" [number "duration" 90] [],
  .mk "targets" (words ["amd64"]) []]

def slowedSettings : Settings := { openedSettings with api := .standard }

end Sample

/-- The token of the first interface node is gone, and anybody may make changes. The heartbeat
of the first lease node is gone, too, and leases are renewed every thirty seconds. -/
theorem Settings.sample_nodes_lose_settings :
    (ofText Sample.openedText = .ok Sample.openedSettings ∧
      Kdl.Document.ofText? Sample.openedText = some Sample.openedDocument ∧
      Sample.openedSettings.api.token = none ∧
      ¬ Sample.openedSettings.Merged Sample.openedDocument) ∧
    ofText Sample.slowedText = .ok Sample.slowedSettings ∧
      Kdl.Document.ofText? Sample.slowedText = some Sample.slowedDocument ∧
      Sample.slowedSettings.lease.heartbeat = .ofSeconds 30 ∧
      ¬ Sample.slowedSettings.Merged Sample.slowedDocument := by
  have given : lastGiven token? (Section.api.nodes Sample.openedDocument) = some "t0ken" := by
    decide +kernel
  have beat : lastGiven (duration? "heartbeat") (Section.lease.nodes Sample.slowedDocument) =
    some (.ofSeconds 20) := by decide +kernel
  refine ⟨⟨ofText_eq_ok (by decide +kernel), by decide +kernel, rfl, fun merged => ?_⟩,
    ofText_eq_ok (by decide +kernel), by decide +kernel, rfl, fun merged => ?_⟩
  · have token := merged.token
    rw [given] at token
    cases token
  · have heartbeat := merged.heartbeat
    rw [beat, Option.getD_some] at heartbeat
    exact absurd heartbeat (by decide +kernel)

end BuildFleet
