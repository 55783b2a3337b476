import Bossa.Io.LibgpiodGpio
import Bossa.Transition.Resources

/-!
# The handles of the GPIO controller

`io/libgpiod_gpio.cpp` once more, with the chips that are opened and the lines that are
requested. Every granted line has a chip of its own, which is closed behind it by the
destructor, in whichever order the map of the lines is walked; a request that fails closes
the chip that it has opened.
-/

namespace Bossa.Io

open Resource

/-- A handle of libgpiod: the chips in the order in which they were opened, and the line that
was requested on a chip. -/
inductive GpioHandle where
  | chip (n : ℕ)
  | line (n : ℕ)
  deriving DecidableEq, Repr

def GpioHandle.parent : GpioHandle → Option GpioHandle
  | chip _ => none
  | line n => some (chip n)

/-- A controller with the chips of its lines, and the number of chips opened so far. -/
structure GpioLife where
  gpio : LibgpiodGpio := {}
  chips : AList fun _ : UInt32 => ℕ := ∅
  opened : ℕ := 0

/-- The line that a call obtains from libgpiod for an offset, unless the controller does not ask
for it. -/
def GpioCall.obtains (offset : UInt32) : GpioCall → Option LineHandle
  | .request outcome chipName offset' direction =>
      if offset' = offset ∧ chipName ≠ [] ∧ outcome.chipOpens = true ∧
          outcome.lineFound = true ∧ outcome.requestStatus = 0 then
        some ⟨Bytes.cString chipName, Bytes.cString chipName, offset, direction⟩
      else none
  | _ => none

namespace GpioLife

/-- `LibgpiodGpio::request_line`. -/
def request (outcome : RequestOutcome) (chipName : Bytes) (offset : UInt32)
    (direction : GpioDirection) (s : GpioLife) : List (Event GpioHandle) × GpioLife :=
  let gpio := (s.gpio.requestLine outcome chipName offset direction).2
  if chipName = [] then ([], { s with gpio := gpio })
  else if (s.gpio.lines.lookup offset).isSome then ([], { s with gpio := gpio })
  else if !outcome.chipOpens then ([], { s with gpio := gpio })
  else if !outcome.lineFound then
    (.acquire (.chip s.opened) :: ([.use (.chip s.opened)] ++ [.release (.chip s.opened)]),
      { s with gpio := gpio, opened := s.opened + 1 })
  else if outcome.requestStatus ≠ 0 then
    (.acquire (.chip s.opened) ::
        ([.use (.chip s.opened), .use (.chip s.opened)] ++ [.release (.chip s.opened)]),
      { s with gpio := gpio, opened := s.opened + 1 })
  else
    ([.acquire (.chip s.opened), .use (.chip s.opened), .acquire (.line s.opened)],
      { gpio := gpio, chips := s.chips.insert offset s.opened, opened := s.opened + 1 })

def useLine (offset : UInt32) (s : GpioLife) : List (Event GpioHandle) :=
  match s.chips.lookup offset with
  | none => []
  | some n => [.use (.line n)]

def call : GpioCall → GpioLife → List (Event GpioHandle) × GpioLife
  | .request outcome chipName offset direction, s =>
      s.request outcome chipName offset direction
  | .read _ valueIsNull offset, s => (if valueIsNull then [] else s.useLine offset, s)
  | .write _ offset _, s => (s.useLine offset, s)

def numbers (s : GpioLife) : List ℕ := s.chips.entries.map Sigma.snd

/-- `LibgpiodGpio::~LibgpiodGpio`, in the order in which the map is walked. -/
def destroy (order : List ℕ) : List (Event GpioHandle) :=
  order.flatMap fun n => [.release (.line n), .release (.chip n)]

def handles (numbers : List ℕ) : Finset GpioHandle :=
  (numbers.map GpioHandle.chip ++ numbers.map GpioHandle.line).toFinset

/-- The chips belong to the lines that the controller keeps, and no chip is opened twice. -/
structure Regular (s : GpioLife) : Prop where
  keys : ∀ offset, (s.chips.lookup offset).isSome = (s.gpio.lines.lookup offset).isSome
  nodup : s.numbers.Nodup
  bounded : ∀ n ∈ s.numbers, n < s.opened

variable {s : GpioLife} {n : ℕ} {order : List ℕ} {offset : UInt32}

@[simp] theorem chip_mem_handles : .chip n ∈ handles order ↔ n ∈ order := by
  simp [handles]

@[simp] theorem line_mem_handles : .line n ∈ handles order ↔ n ∈ order := by
  simp [handles]

theorem handles_cons (n : ℕ) (order : List ℕ) :
    handles (n :: order) = insert (.line n) (insert (.chip n) (handles order)) := by
  ext h
  cases h <;> simp

theorem handles_perm {order order' : List ℕ} (h : order.Perm order') :
    handles order = handles order' := by
  ext k
  cases k <;> simp [h.mem_iff]

/-- The destructor gives back every line and then its chip. -/
theorem uses_destroy :
    ∀ {order : List ℕ}, order.Nodup →
      Uses GpioHandle.parent (handles order) (destroy order) ∅
  | [], _ => .nil
  | n :: order, hnodup => by
      rw [List.nodup_cons] at hnodup
      have hline : Uses GpioHandle.parent (handles (n :: order)) [.release (.line n)]
          (insert (.chip n) (handles order)) := by
        have hrelease := @Uses.release _ _ GpioHandle.parent (handles (n :: order)) (.line n)
          (by simp) (by rintro (_ | _) - <;> simp [GpioHandle.parent])
        rw [handles_cons] at hrelease ⊢
        rwa [Finset.erase_insert (by simp [hnodup.1])] at hrelease
      have hchip : Uses GpioHandle.parent (insert (.chip n) (handles order)) [.release (.chip n)]
          (handles order) := by
        have hrelease := @Uses.release _ _ GpioHandle.parent (insert (.chip n) (handles order))
          (.chip n) (by simp) (by
            rintro (k | k) hk
            · simp [GpioHandle.parent]
            · have hmem : k ∈ order := by simpa using hk
              have hne : k ≠ n := fun heq => hnodup.1 (heq ▸ hmem)
              simpa [GpioHandle.parent] using hne)
        rwa [Finset.erase_insert (by simp [hnodup.1])] at hrelease
      exact (hline.append hchip).append (uses_destroy hnodup.2)

theorem uses_failed (hregular : s.Regular) (count : ℕ) :
    Uses GpioHandle.parent (handles s.numbers)
      (.acquire (.chip s.opened) :: (List.replicate count (.use (.chip s.opened)) ++
        [.release (.chip s.opened)])) (handles s.numbers) := by
  have hnew : s.opened ∉ s.numbers := fun hmem => lt_irrefl _ (hregular.bounded _ hmem)
  refine Uses.bracket (by simp [hnew]) (by simp [GpioHandle.parent]) ?_
    (Uses.replicate (Finset.mem_insert_self _ _) count)
  rintro (k | k) hk
  · simp [GpioHandle.parent]
  · have hmem : k ∈ s.numbers := by simpa using hk
    have hne : k ≠ s.opened := fun heq => hnew (heq ▸ hmem)
    simpa [GpioHandle.parent] using hne

theorem numbers_insert (hfree : offset ∉ s.chips) (gpio : LibgpiodGpio) (opened : ℕ) :
    numbers ⟨gpio, s.chips.insert offset n, opened⟩ = n :: s.numbers := by
  simp only [numbers]
  rw [AList.entries_insert_of_notMem hfree, List.map_cons]

theorem Regular.granted (hregular : s.Regular) (hlookup : s.gpio.lines.lookup offset = none)
    (handle : LineHandle) (chipName : Bytes) {s' : GpioLife}
    (hs' : s' = ⟨⟨s.gpio.lines.insert offset handle, chipName⟩,
      s.chips.insert offset s.opened, s.opened + 1⟩) :
    s'.Regular ∧
      Uses GpioHandle.parent (handles s.numbers)
        [.acquire (.chip s.opened), .use (.chip s.opened), .acquire (.line s.opened)]
        (handles s'.numbers) := by
  have hnew : s.opened ∉ s.numbers := fun hmem => lt_irrefl _ (hregular.bounded _ hmem)
  have hfree : offset ∉ s.chips := by
    have hkey := hregular.keys offset
    rw [hlookup] at hkey
    rw [← AList.lookup_eq_none]
    exact Option.not_isSome_iff_eq_none.mp (by simp [hkey])
  have hnumbers : s'.numbers = s.opened :: s.numbers := by
    rw [hs', numbers_insert hfree]
  refine ⟨⟨fun offset' => ?_, ?_, ?_⟩, ?_⟩
  · subst hs'
    by_cases hoffset : offset' = offset
    · subst hoffset
      rw [AList.lookup_insert, AList.lookup_insert]
      rfl
    · rw [AList.lookup_insert_ne hoffset, AList.lookup_insert_ne hoffset]
      exact hregular.keys offset'
  · rw [hnumbers]
    exact List.nodup_cons.mpr ⟨hnew, hregular.nodup⟩
  · rw [hnumbers, hs']
    intro n hn
    rcases List.mem_cons.mp hn with rfl | hn
    · exact Nat.lt_succ_self _
    · exact (hregular.bounded n hn).trans (Nat.lt_succ_self _)
  · have hchip : Uses GpioHandle.parent (handles s.numbers) [.acquire (.chip s.opened)]
        (insert (.chip s.opened) (handles s.numbers)) :=
      Uses.acquire (by simpa using hnew) (by simp [GpioHandle.parent])
    have hline : Uses GpioHandle.parent (insert (.chip s.opened) (handles s.numbers))
        [.acquire (.line s.opened)]
        (insert (.line s.opened) (insert (.chip s.opened) (handles s.numbers))) :=
      Uses.acquire (by simpa using hnew) (by simp [GpioHandle.parent])
    rw [hnumbers, handles_cons]
    exact (hchip.append (Uses.use (Finset.mem_insert_self _ _))).append hline

/-- What a request does to the handles and to the controller. -/
theorem request_spec (hregular : s.Regular) (outcome : RequestOutcome) (chipName : Bytes)
    (offset : UInt32) (direction : GpioDirection) :
    (s.request outcome chipName offset direction).2.Regular ∧
      Uses GpioHandle.parent (handles s.numbers)
        (s.request outcome chipName offset direction).1
        (handles (s.request outcome chipName offset direction).2.numbers) := by
  have hmore : Regular { s with opened := s.opened + 1 } :=
    ⟨hregular.keys, hregular.nodup, fun n hn =>
      (hregular.bounded n hn).trans (Nat.lt_succ_self _)⟩
  unfold request LibgpiodGpio.requestLine
  by_cases hname : chipName = []
  · simp only [if_pos hname]
    exact ⟨hregular, .nil⟩
  simp only [if_neg hname]
  cases hlookup : s.gpio.lines.lookup offset with
  | some handle =>
      simp only [Option.isSome_some, if_true]
      exact ⟨hregular, .nil⟩
  | none =>
      simp only [Option.isSome_none, Bool.false_eq_true, if_false]
      by_cases hopens : (!outcome.chipOpens) = true
      · simp only [if_pos hopens]
        exact ⟨hregular, .nil⟩
      simp only [if_neg hopens]
      by_cases hfound : (!outcome.lineFound) = true
      · simp only [if_pos hfound]
        exact ⟨hmore, uses_failed hregular 1⟩
      simp only [if_neg hfound]
      by_cases hstatus : outcome.requestStatus ≠ 0
      · simp only [if_pos hstatus]
        exact ⟨hmore, uses_failed hregular 2⟩
      · simp only [if_neg hstatus]
        exact hregular.granted hlookup _ _ rfl

theorem mem_numbers (hlookup : s.chips.lookup offset = some n) : n ∈ s.numbers := by
  have hentry : (⟨offset, n⟩ : Sigma fun _ : UInt32 => ℕ) ∈ s.chips.entries :=
    AList.mem_lookup_iff.mp hlookup
  exact List.mem_map_of_mem hentry

theorem uses_useLine (s : GpioLife) (offset : UInt32) :
    Uses GpioHandle.parent (handles s.numbers) (s.useLine offset) (handles s.numbers) := by
  unfold useLine
  cases hlookup : s.chips.lookup offset with
  | none => exact .nil
  | some n => exact Uses.use (line_mem_handles.mpr (mem_numbers hlookup))

theorem call_spec (c : GpioCall) (s : GpioLife) (hregular : s.Regular) :
    (s.call c).2.Regular ∧
      Uses GpioHandle.parent (handles s.numbers) (s.call c).1 (handles (s.call c).2.numbers) := by
  cases c with
  | request outcome chipName offset direction =>
      exact request_spec hregular outcome chipName offset direction
  | write status offset value => exact ⟨hregular, s.uses_useLine offset⟩
  | read rawValue valueIsNull offset =>
      refine ⟨hregular, ?_⟩
      cases valueIsNull with
      | true => exact .nil
      | false => exact s.uses_useLine offset

theorem regular_new : Regular {} := ⟨fun _ => rfl, List.nodup_nil, nofun⟩

/-- After a call an offset has the line it had before or else the one that the call obtains. -/
theorem lookup_call (c : GpioCall) (s : GpioLife) (offset : UInt32) :
    (s.call c).2.gpio.lines.lookup offset =
      (s.gpio.lines.lookup offset).or (c.obtains offset) := by
  cases c with
  | read => exact Option.or_none.symm
  | write => exact Option.or_none.symm
  | request outcome chipName offset' direction =>
      have hgpio : (s.call (.request outcome chipName offset' direction)).2.gpio =
          (s.gpio.requestLine outcome chipName offset' direction).2 := by
        simp only [call, request]
        repeat' split
        all_goals rfl
      rw [hgpio, LibgpiodGpio.requestLine]
      by_cases hname : chipName = []
      · simp [hname, GpioCall.obtains]
      rw [if_neg hname]
      by_cases hoffset : offset' = offset
      · subst hoffset
        cases hheld : s.gpio.lines.lookup offset' with
        | some handle => exact hheld
        | none =>
            by_cases hopens : outcome.chipOpens = true
            · by_cases hfound : outcome.lineFound = true
              · by_cases hstatus : outcome.requestStatus = 0
                · simp [GpioCall.obtains, hname, hopens, hfound, hstatus]
                · simp [GpioCall.obtains, hopens, hfound, hstatus, hheld]
              · simp [GpioCall.obtains, hopens, hfound, hheld]
            · simp [GpioCall.obtains, hopens, hheld]
      · have hnone : (GpioCall.request outcome chipName offset' direction).obtains offset = none :=
          if_neg fun h => hoffset h.1
        rw [hnone, Option.or_none]
        repeat' split
        all_goals first | rfl | exact AList.lookup_insert_ne (Ne.symm hoffset)

theorem lookup_callAll (offset : UInt32) :
    ∀ (calls : List GpioCall) (s : GpioLife),
      (callAll (fun c s => s.call c) calls s).2.gpio.lines.lookup offset =
        (s.gpio.lines.lookup offset).or (calls.findSome? (GpioCall.obtains offset))
  | [], s => Option.or_none.symm
  | c :: calls, s => by
      have hrest := lookup_callAll offset calls (s.call c).2
      rw [lookup_call, Option.or_assoc] at hrest
      refine hrest.trans (congrArg _ ?_)
      cases hobtains : c.obtains offset with
      | none => rw [List.findSome?_cons, hobtains, Option.none_or]
      | some handle => rw [List.findSome?_cons, hobtains, Option.some_or]

/-- Over the life of a controller, whatever libgpiod returns and in whichever order the
destructor walks the lines: an offset keeps the line of the first request for it that libgpiod
granted, every chip is closed once and after its line, every line is released once, and none
of them is used before or after. -/
theorem lines_clean (calls : List GpioCall) (order : List ℕ)
    (horder : order.Perm (callAll (fun c s => s.call c) calls ({} : GpioLife)).2.numbers) :
    (∀ offset, (callAll (fun c s => s.call c) calls ({} : GpioLife)).2.gpio.lines.lookup offset =
        calls.findSome? (GpioCall.obtains offset)) ∧
      Clean GpioHandle.parent
        ((callAll (fun c s => s.call c) calls ({} : GpioLife)).1 ++ destroy order) := by
  obtain ⟨hlast, huses⟩ :=
    Uses.callAll (fun s : GpioLife => handles s.numbers) call_spec calls {} regular_new
  refine ⟨fun offset => ?_, Uses.clean (huses.append ?_)⟩
  · rw [lookup_callAll, show ({} : GpioLife).gpio.lines.lookup offset = none from rfl,
      Option.none_or]
  · rw [← handles_perm horder]
    exact uses_destroy (horder.nodup_iff.mpr hlast.nodup)

/-- Two lines, one of them read, and the first of them released first. -/
theorem lines_clean_two_lines :
    Clean GpioHandle.parent
      [.acquire (.chip 0), .use (.chip 0), .acquire (.line 0),
        .acquire (.chip 1), .use (.chip 1), .acquire (.line 1), .use (.line 1),
        .release (.line 0), .release (.chip 0), .release (.line 1), .release (.chip 1)] :=
  (lines_clean
    [.request ⟨true, true, 0⟩ (Bytes.ascii "gpiochip0") 5 .output,
      .request ⟨true, true, 0⟩ (Bytes.ascii "gpiochip0") 6 .input,
      .read 1 false 6]
    [0, 1] (by decide)).2

end GpioLife

end Bossa.Io
