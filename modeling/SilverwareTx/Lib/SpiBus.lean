import Mathlib.Tactic

/-!
# A listener on a serial bus

A driver moves the lines of a chip: the select line, the words that are shifted out, and one more
pin. What the chip makes of a command, the words of one selection, is a parameter.

* `Event`, `command`: the lines, and the events of one command;
* `Listener.step`: the listener follows the lines and hands every command to the chip; `sound` is
  whether each word was shifted in a transaction of a selected chip, and each selection closed;
* `listen_command`: a command reaches the chip whole.
-/

namespace SpiBus

variable {β σ : Type*}

/-- A change of the lines. -/
inductive Event (β : Type*)
  | pin (high : Bool)
  | select
  | deselect
  | start
  | transfer (word : β)
  | stop
  deriving DecidableEq

/-- The events of one command. -/
def command (words : List β) : List (Event β) :=
  [.select, .start] ++ words.map .transfer ++ [.stop, .deselect]

/-- What a chip does. -/
structure Chip (β σ : Type*) where
  pin : σ → Bool → σ
  command : σ → List β → σ

/-- Where a selection has come to. -/
inductive Phase (β : Type*)
  | idle
  | selected
  | shifting (words : List β)
  | stopped (words : List β)
  deriving DecidableEq

/-- A chip, and the lines as it has seen them. -/
structure Listener (β σ : Type*) where
  chip : σ
  phase : Phase β := .idle
  sound : Bool := true

namespace Listener

/-- The listener after an event on the bus. -/
def step (c : Chip β σ) (l : Listener β σ) : Event β → Listener β σ
  | .pin high => { l with chip := c.pin l.chip high }
  | .select =>
    match l.phase with
    | .idle => { l with phase := .selected }
    | _ => { l with sound := false }
  | .start =>
    match l.phase with
    | .selected => { l with phase := .shifting [] }
    | _ => { l with sound := false }
  | .transfer word =>
    match l.phase with
    | .shifting words => { l with phase := .shifting (words ++ [word]) }
    | _ => { l with sound := false }
  | .stop =>
    match l.phase with
    | .shifting words => { l with phase := .stopped words }
    | _ => { l with sound := false }
  | .deselect =>
    match l.phase with
    | .idle => l
    | .stopped words => { l with chip := c.command l.chip words, phase := .idle }
    | _ => { l with sound := false }

/-- The listener after a list of events. -/
def listen (c : Chip β σ) (l : Listener β σ) (events : List (Event β)) : Listener β σ :=
  events.foldl (step c) l

section Listen

variable {c : Chip β σ} {s : σ} {ok : Bool}

@[simp] theorem listen_nil (l : Listener β σ) : listen c l [] = l := rfl

@[simp] theorem listen_append (l : Listener β σ) (events events' : List (Event β)) :
    listen c l (events ++ events') = listen c (listen c l events) events' := List.foldl_append

@[simp] theorem listen_pin (high : Bool) (events : List (Event β)) :
    listen c ⟨s, .idle, ok⟩ (.pin high :: events) = listen c ⟨c.pin s high, .idle, ok⟩ events := rfl

/-- The select line may be raised again between two commands. -/
@[simp] theorem listen_deselect (events : List (Event β)) :
    listen c ⟨s, .idle, ok⟩ (.deselect :: events) = listen c ⟨s, .idle, ok⟩ events := rfl

theorem listen_transfers (words done : List β) :
    listen c ⟨s, .shifting done, ok⟩ (words.map .transfer) = ⟨s, .shifting (done ++ words), ok⟩ := by
  induction words generalizing done with
  | nil => simp
  | cons word words ih =>
    have hrest := ih (done ++ [word])
    rw [List.append_assoc] at hrest
    exact hrest

/-- A command reaches the chip whole. -/
@[simp] theorem listen_command (words : List β) :
    listen c ⟨s, .idle, ok⟩ (command words) = ⟨c.command s words, .idle, ok⟩ := by
  rw [command, listen_append, listen_append]
  have hstart : listen c ⟨s, .idle, ok⟩ [.select, .start] = ⟨s, .shifting [], ok⟩ := rfl
  rw [hstart, listen_transfers]
  rfl

end Listen

end Listener

end SpiBus
