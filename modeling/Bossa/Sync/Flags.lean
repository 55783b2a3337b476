import Bossa.Sync.UploadPolicy
import Bossa.Transition.Fold

/-!
# The flags of the upload policy

The policy keeps two flags that say whether some channel is pending, next to the flags of
the channels themselves. `configure_channel` replaces a channel together with its flags and
leaves the two as they are, so a pending channel may not be replaced unless another one is
pending alike.
-/

namespace Bossa.Sync

open Telemetry

/-- A call of an operation that may change the policy, with the clock reading that it
takes. -/
inductive PolicyCall
  | configureChannel (state : ChannelSyncState) (now : ℤ)
  | clear
  | onSample (channelId : Bytes) (value : Double) (now : ℤ)
  | markFlushed (now : ℤ)
  deriving Repr

def PolicyCall.apply (p : UploadPolicy) : PolicyCall → UploadPolicy
  | configureChannel state now => p.configureChannel state now
  | clear => p.clear
  | onSample channelId value now => p.onSample channelId value now
  | markFlushed now => p.markFlushed now

namespace UploadPolicy

/-- The policy after a list of calls, from a fresh one. -/
def after (calls : List PolicyCall) : UploadPolicy := calls.foldl PolicyCall.apply empty

/-- The channel waits for a flush since it read a realtime sample. -/
def PendingRealtime (state : RuntimeState) : Prop := state.pendingRealtime = true

/-- The channel waits for a flush since its value changed. -/
def PendingOnChange (state : RuntimeState) : Prop := state.pendingOnChange = true

/-- The two flags say whether some registered channel is pending. -/
structure FlagsAgree (p : UploadPolicy) : Prop where
  realtime : p.anyPendingRealtime = true ↔ p.channels.Has PendingRealtime
  onChange : p.anyPendingOnChange = true ↔ p.channels.Has PendingOnChange

/-- Below a full batch a flush is due exactly when a registered channel is pending or the
interval of one that uploads batches has elapsed. -/
def FlushesForChannels (p : UploadPolicy) : Prop :=
  ∀ (now : ℤ) (bufferedCount maxBatchSize : ℕ), 0 < bufferedCount →
    bufferedCount < maxBatchSize →
      (p.shouldFlush now bufferedCount maxBatchSize = true ↔
        p.channels.Has PendingRealtime ∨ p.channels.Has PendingOnChange ∨
          p.channels.Has fun state => state.config.destinationRemote = true ∧
            state.config.mode = .batch ∧
            now - state.lastFlush ≥ state.config.remoteInterval * 1000000000)

/-- The channel with the id is not pending, or another one is pending alike. -/
def Replaceable (id : Bytes) (p : UploadPolicy) : Prop :=
  ∀ state, p.channels.lookup id = some state →
    (PendingRealtime state → p.channels.HasElse PendingRealtime id) ∧
      (PendingOnChange state → p.channels.HasElse PendingOnChange id)

end UploadPolicy

/-- The channel that a call of `configure_channel` replaces is not the only pending one. -/
def PolicyCall.Careful (p : UploadPolicy) : PolicyCall → Prop
  | configureChannel state _ => p.Replaceable state.channelId
  | _ => True

namespace UploadPolicy

variable {p : UploadPolicy}

theorem shouldFlush_iff {now : ℤ} {bufferedCount maxBatchSize : ℕ} (hcount : 0 < bufferedCount)
    (hroom : bufferedCount < maxBatchSize) :
    p.shouldFlush now bufferedCount maxBatchSize = true ↔
      p.anyPendingRealtime = true ∨ p.anyPendingOnChange = true ∨
        p.channels.Has fun state => intervalElapsed now state = true := by
  rw [shouldFlush, if_neg (by omega), if_neg (by omega), ← AList.any_entries, ← or_assoc,
    ← Bool.or_eq_true]
  split
  · next hflag => simp [hflag]
  · next hflag => simp [hflag]

theorem FlagsAgree.flushesForChannels (h : p.FlagsAgree) : p.FlushesForChannels := by
  intro now bufferedCount maxBatchSize hcount hroom
  rw [shouldFlush_iff hcount hroom, h.realtime, h.onChange]
  simp [intervalElapsed, and_assoc]

theorem flagsAgree_empty : empty.FlagsAgree where
  realtime := iff_of_false Bool.false_ne_true AList.not_has_empty
  onChange := iff_of_false Bool.false_ne_true AList.not_has_empty

theorem flagsAgree_markFlushed (now : ℤ) : (p.markFlushed now).FlagsAgree := by
  constructor
  all_goals
    refine iff_of_false Bool.false_ne_true fun hhas => ?_
    obtain ⟨id, state, -, hpending⟩ := AList.has_mapValues.mp hhas
    exact Bool.false_ne_true hpending

/-- A sample sets the flag of its channel together with that of the policy. -/
theorem FlagsAgree.onSample (h : p.FlagsAgree) (channelId : Bytes) (value : Double) (now : ℤ) :
    (p.onSample channelId value now).FlagsAgree := by
  unfold UploadPolicy.onSample
  split
  · exact h
  · next state hstate =>
      split
      · exact h
      · split
        · constructor
          · exact iff_of_true rfl (AList.has_insert.mpr (.inl rfl))
          · rw [AList.has_insert_of_lookup hstate (by rfl)]
            exact h.onChange
        · split
          · constructor
            · rw [AList.has_insert_of_lookup hstate (by rfl)]
              exact h.realtime
            · exact iff_of_true rfl (AList.has_insert.mpr (.inl rfl))
          · exact h
        · exact h

theorem agrees_insert_iff {flag : Bool} {P : RuntimeState → Prop} (id : Bytes)
    (fresh : RuntimeState) (h : flag = true ↔ p.channels.Has P) (hfresh : ¬ P fresh) :
    (flag = true ↔ (p.channels.insert id fresh).Has P) ↔
      ∀ state, p.channels.lookup id = some state → P state → p.channels.HasElse P id := by
  rw [h, AList.has_insert, or_iff_right hfresh]
  cases hstate : p.channels.lookup id with
  | none => simp [AList.has_iff_of_lookup_eq_none hstate]
  | some state => simp [AList.has_iff_of_lookup hstate]

theorem FlagsAgree.configureChannel_iff (h : p.FlagsAgree) (state : ChannelSyncState) (now : ℤ) :
    (p.configureChannel state now).FlagsAgree ↔ p.Replaceable state.channelId := by
  have hrealtime := agrees_insert_iff state.channelId { config := state, lastFlush := now }
    h.realtime Bool.false_ne_true
  have honChange := agrees_insert_iff state.channelId { config := state, lastFlush := now }
    h.onChange Bool.false_ne_true
  constructor
  · rintro ⟨hr, hc⟩ old hold
    exact ⟨hrealtime.mp hr old hold, honChange.mp hc old hold⟩
  · intro hreplaceable
    exact ⟨hrealtime.mpr fun old hold => (hreplaceable old hold).1,
      honChange.mpr fun old hold => (hreplaceable old hold).2⟩

theorem FlagsAgree.apply_iff (h : p.FlagsAgree) (call : PolicyCall) :
    (call.apply p).FlagsAgree ↔ call.Careful p := by
  cases call with
  | configureChannel state now => exact h.configureChannel_iff state now
  | clear => exact iff_of_true flagsAgree_empty trivial
  | onSample channelId value now => exact iff_of_true (h.onSample channelId value now) trivial
  | markFlushed now => exact iff_of_true (flagsAgree_markFlushed now) trivial

/-- In a run from a fresh policy the flags are true to the channels, and the decision with
them, exactly when no call replaces the only channel that is pending in its way. -/
theorem flags_agree_iff_careful (calls : List PolicyCall) :
    (∀ done, done <+: calls → (after done).FlagsAgree ∧ (after done).FlushesForChannels) ↔
      ∀ done call, done ++ [call] <+: calls → call.Careful (after done) := by
  have hruns := Transition.forall_prefix_foldl_iff flagsAgree_empty
    (fun _ call h => h.apply_iff call) calls
  refine Iff.trans ?_ hruns
  constructor
  · exact fun h done hdone => (h done hdone).1
  · exact fun h done hdone => ⟨h done hdone, (h done hdone).flushesForChannels⟩

def alarm : ChannelSyncState where
  channelId := [97]
  mode := .realtime
  priority := .critical
  remoteInterval := 60
  onChangeThreshold := .finite 0
  destinationRemote := true

/-- A realtime channel that is registered again while it is pending leaves its flag behind. -/
theorem flag_left_behind :
    ¬ ∀ calls : List PolicyCall, (after calls).FlagsAgree ∧ (after calls).FlushesForChannels := by
  intro h
  have hflag := (h [.configureChannel alarm 0, .onSample alarm.channelId (.finite 1) 1,
    .configureChannel alarm 2]).1.realtime.mp (by decide)
  exact absurd (AList.any_entries.mpr hflag) (by decide)

end UploadPolicy

end Bossa.Sync
