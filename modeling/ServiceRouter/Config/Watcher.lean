import ServiceRouter.Config.Loader

/-!
# The configuration watcher

The watcher reloads the file on the events that concern it and stores what it
loaded in the configuration slot.  A stored configuration lives at an address
of its own, which the allocator may use again once it is dropped.
-/

namespace ServiceRouter

open Foundation

inductive EventKind where
  | any
  | access
  | create
  | modify
  | remove
  | other
  deriving DecidableEq, Repr

structure WatchEvent where
  kind : EventKind
  paths : List PathBuf

def WatchEvent.isRelevant (event : WatchEvent) (configPath : PathBuf) :
    Bool :=
  (event.kind = .modify || event.kind = .create) &&
    event.paths.any fun p => p.components == configPath.components

/-- The content of the slot: a configuration and the address of its `Arc`. -/
structure ConfigArc where
  addr : Nat
  config : AppConfig
  deriving DecidableEq

/-- `file` is read after the debounce delay; `addr` is the address a loaded
configuration gets. -/
def handleEvent (P : Platform) (host : ConfigHost) (event : WatchEvent)
    (configPath : PathBuf) (file : FileRead) (addr : Nat)
    (configSlot : ConfigArc) : ConfigArc :=
  if !event.isRelevant configPath then configSlot
  else
    match loadConfig P host configPath file with
    | .ok newConfig => ⟨addr, newConfig⟩
    | .error _ => configSlot

def reloaded (P : Platform) (host : ConfigHost) (event : WatchEvent)
    (configPath : PathBuf) (file : FileRead) : Option AppConfig :=
  if event.isRelevant configPath
  then (loadConfig P host configPath file).toOption
  else none

section Watcher

variable {P : Platform} {host : ConfigHost} {event : WatchEvent}
  {configPath : PathBuf} {file : FileRead} (addr : Nat)
  {configSlot : ConfigArc} {config : AppConfig}

theorem handleEvent_of_reloaded
    (h : reloaded P host event configPath file = some config) :
    handleEvent P host event configPath file addr configSlot =
      ⟨addr, config⟩ := by
  unfold reloaded at h
  split at h
  · next hrelevant =>
      cases hload : loadConfig P host configPath file with
      | error e =>
          rw [hload] at h
          cases h
      | ok loaded =>
          rw [hload] at h
          cases h
          simp [handleEvent, hrelevant, hload]
  · cases h

theorem handleEvent_of_not_reloaded
    (h : reloaded P host event configPath file = none) :
    handleEvent P host event configPath file addr configSlot =
      configSlot := by
  unfold reloaded at h
  split at h
  · next hrelevant =>
      cases hload : loadConfig P host configPath file with
      | error e => simp [handleEvent, hrelevant, hload]
      | ok loaded =>
          rw [hload] at h
          cases h
  · next hrelevant => simp [handleEvent, hrelevant]

theorem reloaded_eq_some (hrelevant : event.isRelevant configPath = true) :
    reloaded P host event configPath file = some config ↔
      loadConfig P host configPath file = .ok config := by
  rw [reloaded, if_pos hrelevant]
  cases loadConfig P host configPath file <;> simp [Except.toOption]

end Watcher

end ServiceRouter
