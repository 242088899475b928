/-
# Platform.NativeFilter — every window's helper, behind one native event filter

`WindowHelper::NativeFilter` is the process's one native event filter (`GetNativeFilter`).
Each `WindowHelper` registers its window's handle with it as it is built, before `init()`,
and removes the handle when it is destroyed; the filter hands each message to the helper
registered for the message's window. A `Process` is the filter's `_windowByHandle` with the
live helpers, each at its own address with the handle it was built for. What a helper does
with a message is the machine of `Platform.WindowHelper`, whose nested messages go to the
same helper: `filter_matches_live_helpers` is why.

* `filter_matches_live_helpers`: along every run, in which every new helper has a fresh
  address and a handle no live window has, the filter holds a handle exactly when a live
  helper was built for it, and then it holds that helper's address: no message reaches a
  destroyed helper and none misses a live one.
* `message_reaches_its_window_only`: a message to a live helper's window is handled by that
  helper, as its `handleNativeEvent` handles it, and no other helper changes;
  `message_to_closed_window_is_ignored`: one to a handle no live helper has is not handled.
* `live_helpers_run_alone`: every live helper is a reachable state of the one-window
  machine, so what holds there along every run holds for each window of the process.
-/
import Mathlib.Data.List.AList
import Kotatogram.Platform.WindowHelper

namespace Kotatogram.Ui.Platform

set_option autoImplicit false

/-- A live `WindowHelper` object: the handle `GetWindowHandle` gave it (`_handle`) and its
state. -/
structure HelperObject where
  handle : Nat
  helper : WindowHelper

/-- `WindowHelper::NativeFilter`: `_windowByHandle`, a `base::flat_map` from a window's handle
to the address of the helper registered for it. -/
structure NativeFilter where
  windowByHandle : AList (fun _ : Nat => Nat)

namespace NativeFilter

/-- `registerWindow(handle, helper)`: `flat_map::emplace`, which keeps a key it already holds
as it is. -/
def registerWindow (f : NativeFilter) (handle helper : Nat) : NativeFilter :=
  if handle ∈ f.windowByHandle then f else ⟨f.windowByHandle.insert handle helper⟩

/-- `unregisterWindow(handle)`: `flat_map::remove`. -/
def unregisterWindow (f : NativeFilter) (handle : Nat) : NativeFilter :=
  ⟨f.windowByHandle.erase handle⟩

end NativeFilter

/-- The process: its one native filter, and the live helpers by address. -/
structure Process where
  filter : NativeFilter
  objects : AList (fun _ : Nat => HelperObject)

namespace Process

/-- Before the first window: the filter `GetNativeFilter` installs is empty. -/
def empty : Process := ⟨⟨∅⟩, ∅⟩

/-- `WindowHelper(window)` at address `id`, for the window with handle `handle`:
`registerWindow(_handle, this)`, then `init()`. -/
def create (p : Process) (id handle : Nat) (n : Native)
    (systemMenu : Option (List MenuItemInfo)) : Process :=
  ⟨p.filter.registerWindow handle id,
    p.objects.insert id ⟨handle, WindowHelper.init n systemMenu⟩⟩

/-- `~WindowHelper()` of the helper at `id`: `unregisterWindow(_handle)`. -/
def destroy (p : Process) (id : Nat) : Process :=
  match p.objects.lookup id with
  | some obj => ⟨p.filter.unregisterWindow obj.handle, p.objects.erase id⟩
  | none => p

/-- The helper `obj` at `id`, in state `helper` now. -/
def setHelper (p : Process) (id : Nat) (obj : HelperObject) (helper : WindowHelper) : Process :=
  { p with objects := p.objects.insert id { obj with helper := helper } }

/-- After `setHelper` the helper at `id` is in the new state and every other is as it was. -/
theorem lookup_setHelper {p : Process} {id id' : Nat} {obj o : HelperObject}
    {helper : WindowHelper} (at_id' : (p.setHelper id obj helper).objects.lookup id' = some o) :
    (id' = id ∧ o = { obj with helper := helper }) ∨ (id' ≠ id ∧ p.objects.lookup id' = some o) := by
  by_cases same : id' = id
  · subst same
    simp only [setHelper, AList.lookup_insert, Option.some.injEq] at at_id'
    exact .inl ⟨rfl, at_id'.symm⟩
  · rw [setHelper, AList.lookup_insert_ne same] at at_id'
    exact .inr ⟨same, at_id'⟩

/-- What `nativeEventFilter` returns, what it wrote through `result`, and the process after. -/
structure Filtered where
  handled : Bool
  result : Option Int
  process : Process

/-- `nativeEventFilter` for a message to the window with handle `handle`: the helper the
filter finds handles it. An address the filter holds with no helper there would be a
dangling pointer; `filter_matches_live_helpers` shows there is none. -/
def nativeEventFilter (p : Process) (handle : Nat) (n : Native) (result : Bool) (m : Message) :
    Filtered :=
  match p.filter.windowByHandle.lookup handle with
  | some id =>
    match p.objects.lookup id with
    | some obj =>
      let out := obj.helper.handleNativeEvent n result m
      ⟨out.handled, out.result, p.setHelper id obj out.helper⟩
    | none => ⟨false, none, p⟩
  | none => ⟨false, none, p⟩

/-- `windowStateChanged(state)` of the window of the helper at `id`: the slot `init()`
connected. -/
def stateChanged (p : Process) (id : Nat) (state : WindowState) (api : MenuApi) : Process :=
  match p.objects.lookup id with
  | some obj => p.setHelper id obj (obj.helper.updateSystemMenu state api)
  | none => p

/-- What happens to the process: a helper built or destroyed, a message to a window, or a
signal of one. -/
inductive Event where
  | create (id handle : Nat) (n : Native) (systemMenu : Option (List MenuItemInfo))
  | destroy (id : Nat)
  | message (handle : Nat) (m : Message) (n : Native) (result : Bool)
  | windowStateChanged (id : Nat) (state : WindowState) (api : MenuApi)

def step (p : Process) : Event → Process
  | .create id handle n systemMenu => p.create id handle n systemMenu
  | .destroy id => p.destroy id
  | .message handle m n result => (p.nativeEventFilter handle n result m).process
  | .windowStateChanged id state api => p.stateChanged id state api

/-- What a new helper is given: a fresh address, a handle (`Expects(_handle != nullptr)`), and
one no live helper has, since each window builds one helper and Windows gives live windows
distinct handles. -/
def Allowed (p : Process) : Event → Prop
  | .create id handle _ _ =>
    id ∉ p.objects ∧ handle ≠ 0 ∧ ∀ id' obj, p.objects.lookup id' = some obj → obj.handle ≠ handle
  | _ => True

/-- The processes the program can reach from its start. -/
inductive Reachable : Process → Prop
  | empty : Reachable empty
  | step {p : Process} (e : Event) : p.Allowed e → Reachable p → Reachable (p.step e)

/-! ## The filter against the live helpers -/

/-- The filter holds `handle` with address `id` exactly when the helper at `id` is live and
was built for `handle`. -/
def Consistent (p : Process) : Prop :=
  ∀ handle id, p.filter.windowByHandle.lookup handle = some id ↔
    ∃ obj, p.objects.lookup id = some obj ∧ obj.handle = handle

variable {p : Process}

theorem consistent_empty : empty.Consistent := by
  simp [Consistent, empty]

namespace Consistent

theorem setHelper (c : p.Consistent) {id : Nat} {obj : HelperObject}
    (live : p.objects.lookup id = some obj) (helper : WindowHelper) :
    (p.setHelper id obj helper).Consistent := by
  intro handle id'
  simp only [Process.setHelper]
  rw [c handle id']
  by_cases same : id' = id
  · subst same
    simp [live]
  · simp [AList.lookup_insert_ne same]

/-- A live helper's handle is held with its address. -/
theorem lookup_handle (c : p.Consistent) {id : Nat} {obj : HelperObject}
    (live : p.objects.lookup id = some obj) : p.filter.windowByHandle.lookup obj.handle = some id :=
  (c _ _).mpr ⟨obj, live, rfl⟩

/-- A handle no live helper has is not held. -/
theorem lookup_closed (c : p.Consistent) {handle : Nat}
    (closed : ∀ id obj, p.objects.lookup id = some obj → obj.handle ≠ handle) :
    p.filter.windowByHandle.lookup handle = none := by
  cases held : p.filter.windowByHandle.lookup handle with
  | none => rfl
  | some id =>
    obtain ⟨obj, live, rfl⟩ := (c _ _).mp held
    exact absurd rfl (closed id obj live)

theorem create (c : p.Consistent) {id handle : Nat} {n : Native}
    {systemMenu : Option (List MenuItemInfo)}
    (allowed : p.Allowed (.create id handle n systemMenu)) :
    (p.create id handle n systemMenu).Consistent := by
  obtain ⟨fresh, -, unused⟩ := allowed
  have free : handle ∉ p.filter.windowByHandle := by
    rw [← AList.lookup_eq_none]
    exact c.lookup_closed unused
  have none_at : p.objects.lookup id = none := AList.lookup_eq_none.mpr fresh
  intro key addr
  simp only [Process.create, NativeFilter.registerWindow, free, if_false]
  by_cases same : addr = id
  · subst same
    by_cases held : key = handle
    · subst held
      simp
    · simp [AList.lookup_insert_ne held, c key addr, none_at, Ne.symm held]
  · by_cases held : key = handle
    · subst held
      simp only [AList.lookup_insert, Option.some.injEq, AList.lookup_insert_ne same]
      exact ⟨fun e => absurd e.symm same, fun ⟨obj, live, e⟩ => absurd e (unused addr obj live)⟩
    · simp [AList.lookup_insert_ne held, AList.lookup_insert_ne same, c key addr]

theorem destroy (c : p.Consistent) (id : Nat) : (p.destroy id).Consistent := by
  unfold Process.destroy
  split
  · next gone live =>
    intro key addr
    simp only [NativeFilter.unregisterWindow]
    by_cases held : key = gone.handle
    · subst held
      simp only [AList.lookup_erase, reduceCtorEq, false_iff, not_exists, not_and]
      intro obj at_i same
      by_cases here : addr = id
      · subst here
        simp at at_i
      · rw [AList.lookup_erase_ne here] at at_i
        have twice := c.lookup_handle at_i
        rw [same, c.lookup_handle live] at twice
        exact here (Option.some.inj twice).symm
    · rw [AList.lookup_erase_ne held, c key addr]
      by_cases here : addr = id
      · subst here
        simpa [live] using Ne.symm held
      · simp [AList.lookup_erase_ne here]
  · exact c

theorem nativeEventFilter (c : p.Consistent) (handle : Nat) (n : Native) (result : Bool)
    (m : Message) : (p.nativeEventFilter handle n result m).process.Consistent := by
  unfold Process.nativeEventFilter
  split
  · split
    · next live => exact c.setHelper live _
    · exact c
  · exact c

theorem stateChanged (c : p.Consistent) (id : Nat) (state : WindowState) (api : MenuApi) :
    (p.stateChanged id state api).Consistent := by
  unfold Process.stateChanged
  split
  · next live => exact c.setHelper live _
  · exact c

theorem step (c : p.Consistent) {e : Event} (allowed : p.Allowed e) : (p.step e).Consistent := by
  cases e with
  | create id handle n systemMenu => exact c.create allowed
  | destroy id => exact c.destroy id
  | message handle m n result => exact c.nativeEventFilter handle n result m
  | windowStateChanged id state api => exact c.stateChanged id state api

end Consistent

theorem Reachable.consistent (reach : p.Reachable) : p.Consistent := by
  induction reach with
  | empty => exact consistent_empty
  | step e allowed _ c => exact c.step allowed

/-! ## Messages along a run -/

/-- **The filter matches the live helpers.** Along every run, the filter holds no address
but a live helper's, under the handle that helper was built for, and it holds every live
helper: `nativeEventFilter` never follows a dangling pointer and never misses a window. -/
theorem filter_matches_live_helpers (reach : p.Reachable) :
    (∀ handle id, p.filter.windowByHandle.lookup handle = some id →
      ∃ obj, p.objects.lookup id = some obj ∧ obj.handle = handle) ∧
    ∀ id obj, p.objects.lookup id = some obj →
      p.filter.windowByHandle.lookup obj.handle = some id :=
  ⟨fun _ _ held => (reach.consistent _ _).mp held,
    fun _ _ live => reach.consistent.lookup_handle live⟩

/-- Two maximized windows: the helper at address 1 for handle `0x10`, with the standard
system menu, and the one at address 2 for handle `0x20`, without one. -/
def twoWindows : Process :=
  (empty.step (.create 1 0x10 maximizedNative (some standardSystemMenu))).step
    (.create 2 0x20 maximizedNative none)

theorem twoWindows_reachable : twoWindows.Reachable := by
  refine .step _ ⟨by simp [step, create, empty, -AList.insert_empty], by decide, ?_⟩
    (.step _ ⟨by simp [empty], by decide, by simp [empty]⟩ .empty)
  intro id obj live
  by_cases same : id = 1
  · subst same
    simp only [step, create, empty, AList.lookup_insert, Option.some.injEq] at live
    rw [← live]
    decide
  · simp only [step, create, empty, AList.lookup_insert_ne same, AList.lookup_empty,
      reduceCtorEq] at live

theorem filter_matches_two_windows :
    twoWindows.Reachable ∧
      (∀ handle id, twoWindows.filter.windowByHandle.lookup handle = some id →
        ∃ obj, twoWindows.objects.lookup id = some obj ∧ obj.handle = handle) ∧
      ∀ id obj, twoWindows.objects.lookup id = some obj →
        twoWindows.filter.windowByHandle.lookup obj.handle = some id :=
  ⟨twoWindows_reachable, filter_matches_live_helpers twoWindows_reachable⟩

/-- **A message reaches its window's helper and no other.** Along every run, a message to a
live helper's window is handled by that helper, as its `handleNativeEvent` handles it, and
every other helper stays as it was. -/
theorem message_reaches_its_window_only (reach : p.Reachable) {id : Nat} {obj : HelperObject}
    (live : p.objects.lookup id = some obj) (n : Native) (result : Bool) (m : Message) :
    p.nativeEventFilter obj.handle n result m =
      ⟨(obj.helper.handleNativeEvent n result m).handled,
        (obj.helper.handleNativeEvent n result m).result,
        p.setHelper id obj (obj.helper.handleNativeEvent n result m).helper⟩ := by
  simp only [nativeEventFilter, reach.consistent.lookup_handle live, live]

theorem message_reaches_first_of_two_windows :
    twoWindows.Reachable ∧
      twoWindows.objects.lookup 1 =
        some ⟨0x10, WindowHelper.init maximizedNative (some standardSystemMenu)⟩ ∧
      twoWindows.nativeEventFilter 0x10 maximizedNative true .ncActivate =
        let h := WindowHelper.init maximizedNative (some standardSystemMenu)
        ⟨(h.handleNativeEvent maximizedNative true .ncActivate).handled,
          (h.handleNativeEvent maximizedNative true .ncActivate).result,
          twoWindows.setHelper 1 ⟨0x10, h⟩ (h.handleNativeEvent maximizedNative true .ncActivate).helper⟩ :=
  ⟨twoWindows_reachable, rfl, message_reaches_its_window_only twoWindows_reachable
    (rfl : twoWindows.objects.lookup 1 =
      some ⟨0x10, WindowHelper.init maximizedNative (some standardSystemMenu)⟩) _ _ _⟩

/-- A message to a window whose helper is gone, or never was, is not handled and changes
nothing. -/
theorem message_to_closed_window_is_ignored (reach : p.Reachable) {handle : Nat}
    (closed : ∀ id obj, p.objects.lookup id = some obj → obj.handle ≠ handle) (n : Native)
    (result : Bool) (m : Message) : p.nativeEventFilter handle n result m = ⟨false, none, p⟩ := by
  simp only [nativeEventFilter, reach.consistent.lookup_closed closed]

theorem message_to_destroyed_first_window_is_ignored :
    (twoWindows.step (.destroy 1)).Reachable ∧
      (∀ id obj, (twoWindows.step (.destroy 1)).objects.lookup id = some obj → obj.handle ≠ 0x10) ∧
      (twoWindows.step (.destroy 1)).nativeEventFilter 0x10 maximizedNative true .ncActivate =
        ⟨false, none, twoWindows.step (.destroy 1)⟩ := by
  have reach : (twoWindows.step (.destroy 1)).Reachable := .step _ trivial twoWindows_reachable
  have closed : ∀ id obj, (twoWindows.step (.destroy 1)).objects.lookup id = some obj →
      obj.handle ≠ 0x10 := by
    intro id obj live
    have gone : (twoWindows.step (.destroy 1)).objects =
        (∅ : AList (fun _ : Nat => HelperObject)).insert 2
          ⟨0x20, WindowHelper.init maximizedNative none⟩ := rfl
    rw [gone] at live
    by_cases same : id = 2
    · subst same
      simp only [AList.lookup_insert, Option.some.injEq] at live
      rw [← live]
      decide
    · simp only [AList.lookup_insert_ne same, AList.lookup_empty, reduceCtorEq] at live
  exact ⟨reach, closed, message_to_closed_window_is_ignored reach closed _ _ _⟩

/-- What a step does to the helper at an address: it keeps it, builds it by `init()`, or takes
it one input of the one-window machine further. -/
theorem lookup_step {e : Event} {id : Nat} {obj : HelperObject}
    (live : (p.step e).objects.lookup id = some obj) :
    p.objects.lookup id = some obj ∨
      (∃ n systemMenu, obj.helper = WindowHelper.init n systemMenu) ∨
      ∃ obj₀ input, p.objects.lookup id = some obj₀ ∧ obj.helper = obj₀.helper.step input := by
  cases e with
  | create id' handle n systemMenu =>
    by_cases same : id = id'
    · subst same
      simp only [step, create, AList.lookup_insert, Option.some.injEq] at live
      exact .inr (.inl ⟨n, systemMenu, by rw [← live]⟩)
    · exact .inl (by simpa [step, create, AList.lookup_insert_ne same] using live)
  | destroy id' =>
    simp only [step, destroy] at live
    split at live
    · by_cases same : id = id'
      · subst same
        simp at live
      · exact .inl (by simpa [AList.lookup_erase_ne same] using live)
    · exact .inl live
  | message handle m n result =>
    simp only [step, nativeEventFilter] at live
    split at live
    · split at live
      · next live' =>
        obtain ⟨rfl, rfl⟩ | ⟨-, live⟩ := lookup_setHelper live
        · exact .inr (.inr ⟨_, .native m n result, live', rfl⟩)
        · exact .inl live
      · exact .inl live
    · exact .inl live
  | windowStateChanged id' state api =>
    simp only [step, stateChanged] at live
    split at live
    · next live' =>
      obtain ⟨rfl, rfl⟩ | ⟨-, live⟩ := lookup_setHelper live
      · exact .inr (.inr ⟨_, .windowStateChanged state api, live', rfl⟩)
      · exact .inl live
    · exact .inl live

/-- **Each window runs alone.** Along every run, every live helper is a reachable state of
the one-window machine of `Platform.WindowHelper`, for the system menu it found: the helpers
share nothing but the filter, and the filter hands each one its own messages. -/
theorem live_helpers_run_alone (reach : p.Reachable) {id : Nat} {obj : HelperObject}
    (live : p.objects.lookup id = some obj) :
    ∃ systemMenu, Platform.Reachable systemMenu obj.helper := by
  induction reach generalizing id obj with
  | empty => simp [empty] at live
  | step e _ _ ih =>
    obtain before | ⟨n, systemMenu, built⟩ | ⟨obj₀, input, before, moved⟩ := lookup_step live
    · exact ih before
    · exact ⟨systemMenu, built ▸ .init n⟩
    · obtain ⟨systemMenu, reach₀⟩ := ih before
      exact ⟨systemMenu, moved ▸ .step input reach₀⟩

theorem first_of_two_windows_runs_alone :
    twoWindows.Reachable ∧
      twoWindows.objects.lookup 1 =
        some ⟨0x10, WindowHelper.init maximizedNative (some standardSystemMenu)⟩ ∧
      ∃ systemMenu, Platform.Reachable systemMenu
        (WindowHelper.init maximizedNative (some standardSystemMenu)) :=
  ⟨twoWindows_reachable, rfl, live_helpers_run_alone twoWindows_reachable
    (rfl : twoWindows.objects.lookup 1 =
      some ⟨0x10, WindowHelper.init maximizedNative (some standardSystemMenu)⟩)⟩

end Process

end Kotatogram.Ui.Platform
