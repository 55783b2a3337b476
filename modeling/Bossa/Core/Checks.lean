import Bossa.Core.LoadConfig

/-!
# The checks of a configuration

`load_config` reads the fields of a document one after another and stops at the first
one it does not accept, either with a message or, when the YAML library cannot convert
it, with an exception. Each field has a verdict of its own, which does not depend on
the other fields. What becomes of the document is the first verdict that is not an
acceptance.
-/

namespace Bossa.Core

open Telemetry ConfigLoadResult

/-- The verdict on a field: it is accepted, refused with a message, or the YAML library
throws on it. -/
inductive Verdict where
  | accepted
  | refused
  | thrown
  deriving DecidableEq, Repr

namespace Verdict

/-- The verdict on two fields that are read one after the other. -/
def andThen : Verdict → Verdict → Verdict
  | accepted, w => w
  | v, _ => v

/-- The verdict on fields that are read one after another: the first one that is not an
acceptance. -/
def first (verdicts : List Verdict) : Verdict := verdicts.foldr andThen accepted

@[simp] theorem andThen_accepted (v : Verdict) : v.andThen accepted = v := by
  cases v <;> rfl

theorem andThen_assoc (u v w : Verdict) :
    (u.andThen v).andThen w = u.andThen (v.andThen w) := by
  cases u <;> rfl

theorem andThen_eq_accepted_iff {v w : Verdict} :
    v.andThen w = accepted ↔ v = accepted ∧ w = accepted := by
  cases v <;> simp [andThen]

@[simp] theorem first_nil : first [] = accepted := rfl

@[simp] theorem first_cons (v : Verdict) (verdicts : List Verdict) :
    first (v :: verdicts) = v.andThen (first verdicts) := rfl

@[simp] theorem first_append (verdicts verdicts' : List Verdict) :
    first (verdicts ++ verdicts') = (first verdicts).andThen (first verdicts') := by
  induction verdicts with
  | nil => rfl
  | cons v verdicts ih => rw [List.cons_append, first_cons, ih, first_cons, andThen_assoc]

theorem first_eq_accepted_iff {verdicts : List Verdict} :
    first verdicts = accepted ↔ ∀ v ∈ verdicts, v = accepted := by
  induction verdicts with
  | nil => simp
  | cons v verdicts ih => rw [first_cons, andThen_eq_accepted_iff, ih, List.forall_mem_cons]

/-- Acceptance on a condition. -/
def require (p : Prop) [Decidable p] : Verdict := if p then accepted else refused

theorem require_eq_accepted_iff {p : Prop} [Decidable p] :
    require p = accepted ↔ p := by
  unfold require
  split <;> simp_all

end Verdict

/-- The result of a part of `load_config` is as a verdict says. A message is never
empty. -/
inductive Outcome {α : Type*} : ConfigLoadResult α → Verdict → Prop
  | ok (a : α) : Outcome (.ok a) .accepted
  | fail {message : Bytes} (h : message ≠ []) : Outcome (fail message) .refused
  | escape : Outcome (.error .escape) .thrown

namespace Outcome

universe u

variable {α β : Type u}

theorem bind {x : ConfigLoadResult α} {f : α → ConfigLoadResult β} {v w : Verdict}
    (hx : Outcome x v) (hf : ∀ a, x = .ok a → Outcome (f a) w) :
    Outcome (x >>= f) (v.andThen w) := by
  cases hx with
  | ok a => exact hf a rfl
  | fail h => exact .fail h
  | escape => exact .escape

theorem map {x : ConfigLoadResult α} {f : α → β} {v : Verdict} (hx : Outcome x v) :
    Outcome (x >>= fun a => pure (f a)) v := by
  have hbind := hx.bind fun a _ => Outcome.ok (f a)
  rwa [Verdict.andThen_accepted] at hbind

theorem exists_ok_iff {x : ConfigLoadResult α} {v : Verdict} (h : Outcome x v) :
    (∃ a, x = .ok a) ↔ v = .accepted := by
  cases h with
  | ok a => simp
  | fail h => simp [ConfigLoadResult.fail]
  | escape => simp

theorem reported_iff {x : ConfigLoadResult α} {v : Verdict} (h : Outcome x v) :
    ((∃ a, x = .ok a) ∨ ∃ message, message ≠ [] ∧ x = .error (.fail message)) ↔
      v ≠ .thrown := by
  cases h with
  | ok a => simp
  | fail h =>
      simp only [ne_eq, reduceCtorEq, not_false_eq_true, iff_true]
      exact .inr ⟨_, h, rfl⟩
  | escape => simp

end Outcome

section Fields

open Verdict

variable (conversions : YamlConversions)

/-- The verdict on a field that is converted and has to pass a test. -/
def convertVerdict {α : Type*} (convert : Yaml → ConfigLoadResult α) (test : α → Bool)
    (member : Yaml) : Verdict :=
  match convert member with
  | .ok a => require (test a = true)
  | .error _ => .thrown

def optionalVerdict (verdict : Yaml → Verdict) (member : Option Yaml) : Verdict :=
  member.elim .accepted verdict

def requiredVerdict (verdict : Yaml → Verdict) (member : Option Yaml) : Verdict :=
  member.elim .refused verdict

def mapVerdict (member : Yaml) : Verdict := require (member.isMap = true)

def textVerdict (member : Yaml) : Verdict :=
  require ((nonEmptyString (some member)).isSome = true)

def positiveVerdict : Yaml → Verdict := convertVerdict conversions.int fun v => 0 < v

mutual

/-- All keys inside the tree can be converted to strings. -/
def keysConvert : Yaml → Bool
  | .null => true
  | .scalar _ => true
  | .sequence items => itemsConvert items
  | .map entries => entriesConvert entries

def itemsConvert : List Yaml → Bool
  | [] => true
  | item :: items => keysConvert item && itemsConvert items

def entriesConvert : List (Yaml × Yaml) → Bool
  | [] => true
  | (key, item) :: entries =>
      (conversions.string key).isOk && keysConvert item && entriesConvert entries

end

/-- A member of the section with the given name, if there is such a section. -/
def sectionMember (root : Yaml) (name key : String) : Option Yaml :=
  (root.get? name).bind (Yaml.get? key)

/-- The verdicts on `server`. -/
def serverVerdicts (root : Yaml) : List Verdict :=
  [optionalVerdict mapVerdict (root.get? "server"),
    optionalVerdict textVerdict (sectionMember root "server" "url"),
    optionalVerdict (positiveVerdict conversions)
      (sectionMember root "server" "upload_timeout_seconds"),
    optionalVerdict (positiveVerdict conversions) (sectionMember root "server" "max_batch_size")]

/-- The verdicts on `local_storage`. -/
def storageVerdicts (root : Yaml) : List Verdict :=
  [optionalVerdict mapVerdict (root.get? "local_storage"),
    optionalVerdict textVerdict (sectionMember root "local_storage" "path"),
    optionalVerdict (positiveVerdict conversions)
      (sectionMember root "local_storage" "max_size_megabytes"),
    optionalVerdict (positiveVerdict conversions)
      (sectionMember root "local_storage" "retention_hours")]

def isDestination (text : Bytes) : Bool :=
  text = Bytes.ascii "local" || text = Bytes.ascii "remote"

/-- The verdicts on `sync.destinations`. -/
def destinationVerdicts : Option Yaml → List Verdict
  | none => []
  | some (.sequence destinations) =>
      destinations.map (convertVerdict conversions.string isDestination)
  | some _ => [.refused]

/-- The verdicts on the members of the section `sync` of a channel. -/
def syncVerdicts (node : Yaml) : List Verdict :=
  destinationVerdicts conversions (sectionMember node "sync" "destinations") ++
    [optionalVerdict (positiveVerdict conversions)
        (sectionMember node "sync" "remote_interval_seconds"),
      optionalVerdict (convertVerdict conversions.string fun text => (parsePriority text).isSome)
        (sectionMember node "sync" "priority"),
      optionalVerdict (convertVerdict conversions.string fun text => (parseSyncMode text).isSome)
        (sectionMember node "sync" "mode"),
      optionalVerdict (convertVerdict conversions.double fun _ => true)
        (sectionMember node "sync" "on_change_threshold")]

/-- The verdict on `parameters`. -/
def parametersVerdict (member : Yaml) : Verdict :=
  if keysConvert conversions member then .accepted else .thrown

def channelVerdicts (node : Yaml) : List Verdict :=
  [mapVerdict node, requiredVerdict textVerdict (node.get? "id"),
    requiredVerdict textVerdict (node.get? "driver"),
    requiredVerdict (convertVerdict conversions.double fun rate => Double.lt (.finite 0) rate)
      (node.get? "sample_rate_hz"),
    optionalVerdict (parametersVerdict conversions) (node.get? "parameters"),
    optionalVerdict mapVerdict (node.get? "sync")] ++
  syncVerdicts conversions node

/-- The verdicts on `channels`. -/
def channelsVerdicts (root : Yaml) : List Verdict :=
  match root.get? "channels" with
  | none => []
  | some (.sequence nodes) => nodes.flatMap (channelVerdicts conversions)
  | some _ => [.refused]

/-- The verdicts on a document, in the order in which it is read. -/
def verdicts (root : Yaml) : List Verdict :=
  [mapVerdict root,
    requiredVerdict (convertVerdict conversions.int fun v => v = supportedConfigVersion)
      (root.get? "config_version"),
    requiredVerdict mapVerdict (root.get? "node"),
    requiredVerdict textVerdict (sectionMember root "node" "id"),
    requiredVerdict textVerdict (sectionMember root "node" "api_key_file")] ++
  (serverVerdicts conversions root ++ (storageVerdicts conversions root ++
    channelsVerdicts conversions root))

end Fields

section Outcomes

open Verdict

variable {conversions : YamlConversions}

theorem channelMessage_ne_nil (index : ℕ) (suffix : String) :
    channelMessage index suffix ≠ [] := by
  have hprefix : Bytes.ascii "channels[" ≠ [] := by decide
  simp [channelMessage, hprefix]

/-- A conversion followed by a test has the verdict of the field. -/
theorem convert_bind_outcome {α β : Type} {convert : Yaml → ConfigLoadResult α}
    {test : α → Bool} {member : Yaml} {f : α → ConfigLoadResult β} {w : Verdict}
    (hescape : ∀ e, convert member = .error e → e = .escape)
    (haccept : ∀ a, test a = true → Outcome (f a) w)
    (hrefuse : ∀ a, test a = false → Outcome (f a) .refused) :
    Outcome (convert member >>= f) ((convertVerdict convert test member).andThen w) := by
  unfold convertVerdict
  cases hconvert : convert member with
  | error e =>
      rw [hescape e hconvert]
      exact .escape
  | ok a =>
      dsimp only
      cases htest : test a with
      | true =>
          rw [require, if_pos rfl]
          exact haccept a htest
      | false =>
          rw [require, if_neg Bool.false_ne_true]
          exact hrefuse a htest

theorem convert_outcome {α β : Type} {convert : Yaml → ConfigLoadResult α}
    {test : α → Bool} {member : Yaml} {f : α → ConfigLoadResult β}
    (hescape : ∀ e, convert member = .error e → e = .escape)
    (haccept : ∀ a, test a = true → Outcome (f a) .accepted)
    (hrefuse : ∀ a, test a = false → Outcome (f a) .refused) :
    Outcome (convert member >>= f) (convertVerdict convert test member) := by
  have hbind := convert_bind_outcome hescape haccept hrefuse
  rwa [andThen_accepted] at hbind

theorem int_error {member : Yaml} {e : LoadFailure} (h : conversions.int member = .error e) :
    e = .escape := by
  unfold YamlConversions.int converted at h
  split at h
  · split at h
    · cases h
    · cases h
      rfl
  · cases h
    rfl

theorem double_error {member : Yaml} {e : LoadFailure}
    (h : conversions.double member = .error e) : e = .escape := by
  unfold YamlConversions.double converted at h
  split at h
  · split at h
    · cases h
    · cases h
      rfl
  · cases h
    rfl

theorem string_error {member : Yaml} {e : LoadFailure}
    (h : conversions.string member = .error e) : e = .escape := by
  unfold YamlConversions.string converted at h
  split at h
  · cases h
  · split at h
    · cases h
    · cases h
      rfl
  · cases h
    rfl

theorem parsePositive_outcome {node : Yaml} {key : String} (default : ℤ) {message : Bytes}
    (h : message ≠ []) :
    Outcome (parsePositive conversions node key default message)
      (optionalVerdict (positiveVerdict conversions) (node.get? key)) := by
  unfold parsePositive
  cases node.get? key with
  | none => exact .ok default
  | some member =>
      refine convert_outcome (fun _ => int_error) (fun v hv => ?_) fun v hv => ?_
      · rw [if_neg (not_le.mpr (of_decide_eq_true hv))]
        exact .ok v
      · rw [if_pos (not_lt.mp (of_decide_eq_false hv))]
        exact .fail h

theorem parseNonEmpty_outcome {node : Yaml} {key : String} (default : Bytes)
    {message : Bytes} (h : message ≠ []) :
    Outcome (parseNonEmpty node key default message)
      (optionalVerdict textVerdict (node.get? key)) := by
  unfold parseNonEmpty
  cases node.get? key with
  | none => exact .ok default
  | some member =>
      dsimp only [optionalVerdict, Option.elim, textVerdict]
      cases nonEmptyString (some member) with
      | none => exact .fail h
      | some text => exact .ok text

theorem parseNamed_outcome {α : Type} {parse : Bytes → Option α} {node : Yaml}
    {key : String} (default : α) {message : Bytes} (h : message ≠ []) :
    Outcome (parseNamed conversions parse node key default message)
      (optionalVerdict (convertVerdict conversions.string fun text => (parse text).isSome)
        (node.get? key)) := by
  unfold parseNamed
  cases node.get? key with
  | none => exact .ok default
  | some member =>
      refine convert_outcome (fun _ => string_error) (fun text htext => ?_)
        fun text htext => ?_
      · obtain ⟨value, hvalue⟩ := Option.isSome_iff_exists.mp htext
        rw [hvalue]
        exact .ok value
      · rw [Option.isSome_eq_false_iff, Option.isNone_iff_eq_none] at htext
        rw [htext]
        exact .fail h

theorem parseThreshold_outcome (sync : Yaml) (default : Double) :
    Outcome (parseThreshold conversions sync default)
      (optionalVerdict (convertVerdict conversions.double fun _ => true)
        (sync.get? "on_change_threshold")) := by
  unfold parseThreshold
  cases sync.get? "on_change_threshold" with
  | none => exact .ok default
  | some member =>
      have hconvert := @convert_outcome Double Double conversions.double (fun _ => true) member
        pure (fun _ => double_error) (fun v _ => .ok v) (fun _ hv => by cases hv)
      rwa [bind_pure] at hconvert

theorem parseDestinations_outcome (index : ℕ) :
    ∀ (destinations : List Yaml) (flags : Bool × Bool),
      Outcome (parseDestinations conversions index destinations flags)
        (first (destinations.map (convertVerdict conversions.string isDestination)))
  | [], flags => .ok flags
  | destination :: destinations, (isLocal, isRemote) => by
      rw [parseDestinations, List.map_cons, first_cons]
      unfold convertVerdict
      cases hconvert : conversions.string destination with
      | error e =>
          rw [string_error hconvert]
          exact .escape
      | ok value =>
          dsimp only [bind, Except.bind]
          split
          · next hlocal =>
              rw [require_eq_accepted_iff.mpr (by simp [isDestination, hlocal])]
              exact parseDestinations_outcome index destinations (true, isRemote)
          · split
            · next hremote =>
                rw [require_eq_accepted_iff.mpr (by simp [isDestination, hremote])]
                exact parseDestinations_outcome index destinations (isLocal, true)
            · next hlocal hremote =>
                have htest : ¬ isDestination value = true := by
                  simp [isDestination, hlocal, hremote]
                rw [require, if_neg htest]
                exact .fail (channelMessage_ne_nil _ _)

theorem parseDestinationFlags_outcome (index : ℕ) (sync : Yaml) (default : Bool × Bool) :
    Outcome (parseDestinationFlags conversions index sync default)
      (first (destinationVerdicts conversions (sync.get? "destinations"))) := by
  unfold parseDestinationFlags destinationVerdicts
  cases sync.get? "destinations" with
  | none => exact .ok default
  | some member =>
      cases member with
      | sequence destinations => exact parseDestinations_outcome index destinations _
      | null | scalar _ | map _ => exact .fail (channelMessage_ne_nil _ _)

theorem parseSync_outcome (index : ℕ) {node sync : Yaml} (hsync : node.get? "sync" = some sync)
    (config : ChannelSyncConfig) :
    Outcome (parseSync conversions index sync config)
      (first (syncVerdicts conversions node)) := by
  have hmember : ∀ key, sectionMember node "sync" key = sync.get? key := fun key => by
    rw [sectionMember, hsync, Option.bind_some]
  simp only [syncVerdicts, hmember, first_append, first_cons, first_nil]
  refine (parseDestinationFlags_outcome index sync _).bind fun flags _ => ?_
  refine (parsePositive_outcome _ (channelMessage_ne_nil _ _)).bind fun interval _ => ?_
  refine (parseNamed_outcome _ (channelMessage_ne_nil _ _)).bind fun priority _ => ?_
  refine (parseNamed_outcome _ (channelMessage_ne_nil _ _)).bind fun mode _ => ?_
  exact (parseThreshold_outcome sync _).bind fun threshold _ => .ok _

theorem sectionMember_of_not_map {node : Yaml} {name : String}
    (h : ∀ entries, node.get? name ≠ some (.map entries)) (key : String) :
    sectionMember node name key = none := by
  unfold sectionMember
  cases hget : node.get? name with
  | none => rfl
  | some member =>
      cases member with
      | map entries => exact absurd hget (h entries)
      | null | scalar _ | sequence _ => rfl

theorem parseChannelSync_outcome (index : ℕ) (node : Yaml) :
    Outcome (parseChannelSync conversions index node)
      (first (optionalVerdict mapVerdict (node.get? "sync") :: syncVerdicts conversions node)) := by
  unfold parseChannelSync
  rw [first_cons]
  cases hget : node.get? "sync" with
  | none =>
      have hmember := @sectionMember_of_not_map node "sync" (by simp [hget])
      simp only [syncVerdicts, hmember, destinationVerdicts]
      exact .ok _
  | some member =>
      cases member with
      | map entries => exact parseSync_outcome index hget {}
      | null | scalar _ | sequence _ => exact .fail (channelMessage_ne_nil _ _)

mutual

theorem yamlToJson_outcome : ∀ member : Yaml,
    Outcome (yamlToJson conversions member) (parametersVerdict conversions member)
  | .null => .ok _
  | .scalar _ => .ok _
  | .sequence items => by
      rw [yamlToJson, parametersVerdict, keysConvert]
      exact (itemsToJson_outcome items).map
  | .map entries => by
      rw [yamlToJson, parametersVerdict, keysConvert]
      exact (entriesToJson_outcome entries []).map

theorem itemsToJson_outcome : ∀ items : List Yaml,
    Outcome (itemsToJson conversions items)
      (if itemsConvert conversions items then .accepted else .thrown)
  | [] => .ok _
  | item :: items => by
      have hitem := yamlToJson_outcome item
      have hitems := itemsToJson_outcome items
      have hverdict : (if itemsConvert conversions (item :: items) then accepted else thrown) =
          (parametersVerdict conversions item).andThen
            (if itemsConvert conversions items then accepted else thrown) := by
        rw [itemsConvert, parametersVerdict]
        cases keysConvert conversions item <;> rfl
      rw [itemsToJson, hverdict]
      exact hitem.bind fun _ _ => hitems.map

theorem entriesToJson_outcome : ∀ (entries : List (Yaml × Yaml)) (members : List (Bytes × Json)),
    Outcome (entriesToJson conversions entries members)
      (if entriesConvert conversions entries then .accepted else .thrown)
  | [], _ => .ok _
  | (key, item) :: entries, members => by
      rw [entriesToJson, entriesConvert]
      cases hkey : conversions.string key with
      | error e =>
          rw [string_error hkey]
          exact .escape
      | ok name =>
          have hverdict : (if (Except.ok name : ConfigLoadResult Bytes).isOk &&
                keysConvert conversions item && entriesConvert conversions entries
                then accepted else thrown) =
              (parametersVerdict conversions item).andThen
                (if entriesConvert conversions entries then accepted else thrown) := by
            rw [parametersVerdict]
            cases keysConvert conversions item <;> rfl
          rw [hverdict]
          exact (yamlToJson_outcome item).bind fun value _ =>
            entriesToJson_outcome entries (setMember name value members)

end

theorem parseServer_outcome (root : Yaml) (config : Config) :
    Outcome (parseServer conversions root config) (first (serverVerdicts conversions root)) := by
  unfold parseServer serverVerdicts
  cases hget : root.get? "server" with
  | none =>
      have hmember := @sectionMember_of_not_map root "server" (by simp [hget])
      simp only [hmember]
      exact .ok config
  | some server =>
      cases server with
      | map entries =>
          have hmember : ∀ key, sectionMember root "server" key = (Yaml.map entries).get? key :=
            fun key => by rw [sectionMember, hget, Option.bind_some]
          simp only [hmember, first_cons, first_nil]
          refine (parseNonEmpty_outcome _ (by decide)).bind fun url _ => ?_
          refine (parsePositive_outcome _ (by decide)).bind fun timeout _ => ?_
          exact (parsePositive_outcome _ (by decide)).bind fun size _ => .ok _
      | null | scalar _ | sequence _ => exact .fail (by decide)

theorem parseLocalStorage_outcome (root : Yaml) (config : Config) :
    Outcome (parseLocalStorage conversions root config)
      (first (storageVerdicts conversions root)) := by
  unfold parseLocalStorage storageVerdicts
  cases hget : root.get? "local_storage" with
  | none =>
      have hmember := @sectionMember_of_not_map root "local_storage" (by simp [hget])
      simp only [hmember]
      exact .ok config
  | some storage =>
      cases storage with
      | map entries =>
          have hmember : ∀ key,
              sectionMember root "local_storage" key = (Yaml.map entries).get? key :=
            fun key => by rw [sectionMember, hget, Option.bind_some]
          simp only [hmember, first_cons, first_nil]
          refine (parseNonEmpty_outcome _ (by decide)).bind fun path _ => ?_
          refine (parsePositive_outcome _ (by decide)).bind fun maxSize _ => ?_
          exact (parsePositive_outcome _ (by decide)).bind fun retention _ => .ok _
      | null | scalar _ | sequence _ => exact .fail (by decide)

theorem requiredVerdict_textVerdict (member : Option Yaml) :
    requiredVerdict textVerdict member = require ((nonEmptyString member).isSome = true) := by
  cases member <;> rfl

theorem parseParameters_outcome (node : Yaml) :
    Outcome (parseParameters conversions node)
      (optionalVerdict (parametersVerdict conversions) (node.get? "parameters")) := by
  unfold parseParameters
  cases node.get? "parameters" with
  | none => exact .ok _
  | some member => exact yamlToJson_outcome member

theorem parseChannel_outcome (index : ℕ) (node : Yaml) :
    Outcome (parseChannel conversions index node)
      (first (channelVerdicts conversions node)) := by
  unfold parseChannel channelVerdicts
  simp only [List.cons_append, List.nil_append, first_cons, requiredVerdict_textVerdict,
    mapVerdict]
  cases node.isMap with
  | false => exact .fail (channelMessage_ne_nil _ _)
  | true =>
  simp only [Bool.not_true, Bool.false_eq_true, if_false]
  cases nonEmptyString (node.get? "id") with
  | none => exact .fail (channelMessage_ne_nil _ _)
  | some id =>
  cases nonEmptyString (node.get? "driver") with
  | none => exact .fail (channelMessage_ne_nil _ _)
  | some driver =>
  cases node.get? "sample_rate_hz" with
  | none => exact .fail (channelMessage_ne_nil _ _)
  | some member =>
  refine convert_bind_outcome (fun _ => double_error) (fun rate hrate => ?_)
    fun rate hrate => ?_
  · rw [hrate]
    refine (parseParameters_outcome node).bind fun parameters _ => ?_
    exact (parseChannelSync_outcome index node).map
  · rw [hrate]
    exact .fail (channelMessage_ne_nil _ _)

theorem parseChannelList_outcome :
    ∀ (nodes : List Yaml) (index : ℕ),
      Outcome (parseChannelList conversions index nodes)
        (first (nodes.flatMap (channelVerdicts conversions)))
  | [], _ => .ok _
  | node :: nodes, index => by
      rw [parseChannelList, List.flatMap_cons, first_append]
      exact (parseChannel_outcome index node).bind fun channel _ =>
        (parseChannelList_outcome nodes (index + 1)).map

theorem parseChannels_outcome (root : Yaml) (config : Config) :
    Outcome (parseChannels conversions root config)
      (first (channelsVerdicts conversions root)) := by
  unfold parseChannels channelsVerdicts
  cases root.get? "channels" with
  | none => exact .ok config
  | some member =>
      cases member with
      | sequence nodes => exact (parseChannelList_outcome nodes 0).map
      | null | scalar _ | map _ => exact .fail (by decide)

/-- The first verdict that is not an acceptance decides what becomes of a document. -/
theorem parseConfig_outcome (root : Yaml) :
    Outcome (parseConfig conversions root) (first (verdicts conversions root)) := by
  unfold parseConfig verdicts
  simp only [List.cons_append, List.nil_append, first_cons, first_append,
    requiredVerdict_textVerdict, mapVerdict]
  cases root.isMap with
  | false => exact .fail (by decide)
  | true =>
  cases root.get? "config_version" with
  | none => exact .fail (by decide)
  | some version =>
  refine convert_bind_outcome (fun _ => int_error) (fun v hv => ?_) fun v hv => ?_
  · rw [if_neg (not_not.mpr (of_decide_eq_true hv))]
    cases hget : root.get? "node" with
    | none => exact .fail (by decide)
    | some node =>
    cases node with
    | null | scalar _ | sequence _ => exact .fail (by decide)
    | map entries =>
    have hmember : ∀ key, sectionMember root "node" key = (Yaml.map entries).get? key :=
      fun key => by rw [sectionMember, hget, Option.bind_some]
    simp only [hmember]
    cases nonEmptyString ((Yaml.map entries).get? "id") with
    | none => exact .fail (by decide)
    | some id =>
    cases nonEmptyString ((Yaml.map entries).get? "api_key_file") with
    | none => exact .fail (by decide)
    | some apiKeyFile =>
    refine (parseServer_outcome root _).bind fun config _ => ?_
    refine (parseLocalStorage_outcome root config).bind fun config' _ => ?_
    exact parseChannels_outcome root config'
  · rw [if_pos (of_decide_eq_false hv)]
    have hprefix : Bytes.ascii "unsupported config_version: " ≠ [] := by decide
    exact .fail fun hnil => hprefix (List.append_eq_nil_iff.mp hnil).1

/-- The file can be read, and its contents are a document. -/
structure ConfigFile.Parses (load : Bytes → Except Bytes Yaml) (file : ConfigFile)
    (root : Yaml) : Prop where
  found : file.exists = some true
  size : ∃ size ≤ maxConfigBytes, file.size = some size
  opens : file.opens = true
  text : ∃ text, file.text = some text ∧ load text = .ok root

theorem loadConfig_of_parses {load : Bytes → Except Bytes Yaml} {file : ConfigFile}
    {path : Bytes} {root : Yaml} (hpath : path ≠ []) (hfile : file.Parses load root) :
    loadConfig conversions load file path = parseConfig conversions root := by
  obtain ⟨size, hle, hsize⟩ := hfile.size
  obtain ⟨text, htext, hload⟩ := hfile.text
  simp [loadConfig, hpath, hfile.found, converted, hsize, hfile.opens, htext, hload,
    not_lt.mpr hle, bind, Except.bind]

end Outcomes

end Bossa.Core
