import Bossa.Runtime.Accounting

/-!
# Rejected batches

A batch that a flush posts and the server rejects is refused for good: no later
POST contains a sample of it. Rows whose retry is rejected stay in the table, so
the same is true of a whole run when no retry is rejected.
-/

namespace Bossa.Runtime

open Bossa.Core Telemetry Storage Sync
open Ledger (Entry Posts)

def Event.rejected : Event → Bool
  | .post _ _ exchange => HttpUploader.interpretResponse exchange.response = .rejected
  | _ => false

def Event.retryRejected : Event → Bool
  | .post .retry _ exchange => HttpUploader.interpretResponse exchange.response = .rejected
  | _ => false

/-- No sample of a rejected POST is in a later POST. -/
def DropsRejected (events : List Event) : Prop :=
  events.Pairwise fun e e' => e.rejected = true →
    ∀ x ∈ e.postedSamples, ∀ y ∈ e'.postedSamples, x.origin ≠ y.origin

instance (events : List Event) : Decidable (DropsRejected events) :=
  inferInstanceAs (Decidable (List.Pairwise _ events))

theorem exists_required_of_mem_postedSamples {e : Event} {x : StoredSample}
    (hx : x ∈ e.postedSamples) :
    ∃ entry ∈ e.entries, ∃ p, (p = .buffered ∨ p = .pending) ∧
      x.origin ∈ entry.required p := by
  cases e with
  | post route now exchange =>
      have horigin : x.origin ∈ origins exchange.samples := List.mem_map_of_mem hx
      cases route with
      | flush =>
          refine ⟨_, List.mem_singleton_self _, .buffered, .inl rfl, ?_⟩
          simpa [Entry.required] using horigin
      | retry =>
          refine ⟨_, List.mem_singleton_self _, .pending, .inr rfl, ?_⟩
          simpa [Entry.required] using horigin
  | read | dropped | statement => cases hx

theorem outflow_mem_journal {p : Place} (hp : p.IsFinal) {events : List Event} :
    ∀ entry ∈ journal events, entry.outflow p = 0 := by
  intro entry hentry
  have hsum : (journal events).map (Entry.outflow p) = List.replicate _ 0 :=
    List.eq_replicate_of_mem fun m hm => by
      have hle := List.single_le_sum (fun _ _ => Multiset.zero_le _) m hm
      have hzero : ((journal events).map (Entry.outflow p)).sum = 0 :=
        outflow_journal hp events
      rw [hzero] at hle
      exact Multiset.le_zero.mp hle
  exact List.eq_of_mem_replicate (hsum ▸ List.mem_map_of_mem hentry)

theorem mem_refused_of_rejected {e : Event} {h h' : Ledger Place ℕ} {x : StoredSample}
    (hrejected : e.rejected = true) (hretry : e.retryRejected = false)
    (hposts : Posts h e.entries h') (hx : x ∈ e.postedSamples) : x.origin ∈ h' .refused := by
  cases e with
  | post route now exchange =>
      have hresult : HttpUploader.interpretResponse exchange.response = .rejected :=
        of_decide_eq_true hrejected
      cases route with
      | retry => simp [Event.retryRejected, hresult] at hretry
      | flush =>
          have hbalance := hposts.balance .refused
          rw [Event.outflow_entries (by simp [Place.IsFinal]), add_zero,
            Event.inflow_refused_entries, Event.refusedSamples, if_pos hresult] at hbalance
          rw [hbalance]
          exact Multiset.mem_add.mpr (.inr (List.mem_map_of_mem hx))
  | read | dropped | statement => cases hrejected

theorem dropsRejected_of_posts {h' : Ledger Place ℕ} (hnodup : (∑ p, h' p).Nodup) :
    ∀ {events : List Event} {h : Ledger Place ℕ}, Posts h (journal events) h' →
      (∀ e ∈ events, e.retryRejected = false) → DropsRejected events
  | [], _, _, _ => .nil
  | e :: events, h, hposts, hretries => by
      rw [List.forall_mem_cons] at hretries
      rw [journal_cons] at hposts
      obtain ⟨h₁, hfirst, hrest⟩ := hposts.of_append
      refine .cons ?_ (dropsRejected_of_posts hnodup hrest hretries.2)
      intro e' he' hrejected x hx y hy heq
      have hrefused := mem_refused_of_rejected hrejected hretries.1 hfirst hx
      obtain ⟨entry, hentry, p, hp, hrequired⟩ := exists_required_of_mem_postedSamples hy
      have hplace := hrest.eq_of_mem_required hnodup
        (outflow_mem_journal (by simp [Place.IsFinal])) hrefused entry
        (List.mem_flatMap.mpr ⟨e', he', hentry⟩) p (heq ▸ hrequired)
      rcases hp with rfl | rfl <;> cases hplace

/-- In every run in which no retry is answered with 400, no sample of a POST answered
with 400 is in a later POST. -/
theorem dropsRejected_of_retries {config : Config} {input : ConfigureInput}
    {s₀ s s' : TelemetryRuntime} {ticks : List Tick}
    (hconfigure : s₀.configure input config = (true, s)) (hrun : Ticks s ticks s')
    (hnodup : (rowOrigins s.store.rows + readOrigins (eventsOf ticks)).Nodup)
    (hretries : ∀ e ∈ eventsOf ticks, e.retryRejected = false) :
    DropsRejected (eventsOf ticks) := by
  have hwired := TelemetryRuntime.configure_wired hconfigure
  obtain ⟨-, hbuffer, -, -⟩ := TelemetryRuntime.configure_spec hconfigure
  obtain ⟨h', hposts, -⟩ := hrun.posts hwired (booked_openingBooks s)
  have htotal : ∑ p, h' p = rowOrigins s.store.rows + readOrigins (eventsOf ticks) := by
    rw [hposts.sum_eq, entering_journal, sum_place]
    simp [openingBooks, TelemetryRuntime.residents, hbuffer]
  exact dropsRejected_of_posts (htotal ▸ hnodup) hposts hretries

/-- A flush that is rejected, and a later flush. -/
theorem dropsRejected_of_retries_two_ticks :
    ∃ ticks s', Ticks (deployed "1" "remote") ticks s' ∧
      (eventsOf ticks).flatMap Event.refusedSamples ≠ [] ∧
      DropsRejected (eventsOf ticks) := by
  obtain ⟨ticks, s', hrun, hcheck⟩ := exists_ticks (deployed "1" "remote")
    [deploymentTick 1 (some 1) 400 202, deploymentTick 2 (some 2) 202 202]
    (fun ticks _ => decide ((eventsOf ticks).flatMap Event.refusedSamples ≠ [] ∧
      (rowOrigins (deployed "1" "remote").store.rows + readOrigins (eventsOf ticks)).Nodup ∧
      ∀ e ∈ eventsOf ticks, e.retryRejected = false))
    (by decide +kernel)
  obtain ⟨hrefused, hnodup, hretries⟩ := of_decide_eq_true hcheck
  exact ⟨ticks, s', hrun, hrefused,
    dropsRejected_of_retries configure_one_remote hrun hnodup hretries⟩

/-- A retry that is rejected is retried with the same row. -/
theorem not_dropsRejected_of_retry :
    ¬ ∀ (config : Config) (input : ConfigureInput) (s₀ s s' : TelemetryRuntime)
      (ticks : List Tick), s₀.configure input config = (true, s) → Ticks s ticks s' →
      (rowOrigins s.store.rows + readOrigins (eventsOf ticks)).Nodup →
      DropsRejected (eventsOf ticks) := by
  intro hclaim
  obtain ⟨ticks, s', hrun, hcheck⟩ := exists_ticks (deployed "1" "remote")
    [deploymentTick 1 (some 1) 503 202, deploymentTick 10 none 202 400,
      deploymentTick 60 none 202 400]
    (fun ticks _ => decide (¬ DropsRejected (eventsOf ticks) ∧
      (rowOrigins (deployed "1" "remote").store.rows + readOrigins (eventsOf ticks)).Nodup))
    (by decide +kernel)
  obtain ⟨hposted, hnodup⟩ := of_decide_eq_true hcheck
  exact hposted (hclaim _ _ _ _ _ _ configure_one_remote hrun hnodup)

end Bossa.Runtime
