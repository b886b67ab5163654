import Mathlib.Data.List.Infix
import Omairc.Net.Hub

/-!
# What a sink hears of one connection

The callbacks a sink may see for one connection, as a shape and as the phases it goes
through, and what the record of a run says about each connection: which connection was
current, what the sink heard of it and which frames were addressed to it.
-/

namespace Omairc.Net

open Omairc.Text Omairc.Session

/-- The callbacks that end a connection. -/
def Notice.IsTerminal : Notice → Prop
  | .disconnected | .error _ => True
  | _ => False

/-- `Connected`, then at most one `Encrypted`, then any number of `Bytes`, then at most
one terminal callback. A connection that ends before it was connected has its terminal
callback alone. -/
def IsConversation (notices : List Notice) : Prop :=
  ∃ (opening securing closing : List Notice) (received : List Bytes),
    notices = opening ++ (securing ++ (received.map Notice.bytes ++ closing)) ∧
    (opening = [.connected] ∨ opening = [] ∧ securing = [] ∧ received = []) ∧
    (securing = [] ∨ securing = [.encrypted]) ∧
    (closing = [] ∨ ∃ last : Notice, closing = [last] ∧ last.IsTerminal)

/-- How much of a conversation was heard. -/
inductive Phase
  | waiting
  | connected
  | encrypted
  | reading
  | ended

/-- The phase after one more callback. There is none for a callback out of place. -/
def Phase.next : Phase → Notice → Option Phase
  | .waiting, .connected => some .connected
  | .waiting, .disconnected | .waiting, .error _ => some .ended
  | .connected, .encrypted => some .encrypted
  | .connected, .bytes _ | .encrypted, .bytes _ | .reading, .bytes _ => some .reading
  | .connected, .disconnected | .connected, .error _ => some .ended
  | .encrypted, .disconnected | .encrypted, .error _ => some .ended
  | .reading, .disconnected | .reading, .error _ => some .ended
  | _, _ => none

/-- The phase after a list of callbacks. -/
def Phase.hear (phase : Phase) : List Notice → Option Phase
  | [] => some phase
  | notice :: rest => (phase.next notice).bind (·.hear rest)

namespace Phase

theorem hear_append (phase : Phase) (first second : List Notice) :
    phase.hear (first ++ second) = (phase.hear first).bind (·.hear second) := by
  induction first generalizing phase with
  | nil => rfl
  | cons notice rest inductionHypothesis =>
      simp only [List.cons_append, hear, Option.bind_assoc]
      congr 1
      funext next
      exact inductionHypothesis next

theorem hear_concat {phase reached : Phase} {notices : List Notice}
    (heard : phase.hear notices = some reached) (notice : Notice) :
    phase.hear (notices ++ [notice]) = reached.next notice := by
  rw [hear_append, heard]
  exact Option.bind_fun_some _

/-- Nothing follows the end. -/
theorem hear_ended {notices : List Notice} {reached : Phase}
    (heard : Phase.ended.hear notices = some reached) : notices = [] := by
  cases notices with
  | nil => rfl
  | cons notice rest => cases notice <;> cases heard

/-- From reading on there are bytes and at most one terminal callback. -/
theorem hear_reading {notices : List Notice} {reached : Phase}
    (heard : Phase.reading.hear notices = some reached) :
    ∃ (received : List Bytes) (closing : List Notice),
      notices = received.map Notice.bytes ++ closing ∧
      (closing = [] ∨ ∃ last : Notice, closing = [last] ∧ last.IsTerminal) := by
  induction notices with
  | nil => exact ⟨[], [], rfl, .inl rfl⟩
  | cons notice rest inductionHypothesis =>
      cases notice with
      | bytes piece =>
          obtain ⟨received, closing, rfl, last⟩ := inductionHypothesis heard
          exact ⟨piece :: received, closing, rfl, last⟩
      | disconnected =>
          cases hear_ended heard
          exact ⟨[], [.disconnected], rfl, .inr ⟨_, rfl, trivial⟩⟩
      | error error =>
          cases hear_ended heard
          exact ⟨[], [.error error], rfl, .inr ⟨_, rfl, trivial⟩⟩
      | connected => cases heard
      | encrypted => cases heard

/-- The same once the connection is encrypted. -/
theorem hear_encrypted {notices : List Notice} {reached : Phase}
    (heard : Phase.encrypted.hear notices = some reached) :
    ∃ later, Phase.reading.hear notices = some later := by
  cases notices with
  | nil => exact ⟨.reading, rfl⟩
  | cons notice rest => cases notice <;> first | cases heard | exact ⟨reached, heard⟩

/-- Callbacks that lead from the wait to a phase are a conversation. -/
theorem isConversation_of_hear {notices : List Notice} {reached : Phase}
    (heard : Phase.waiting.hear notices = some reached) : IsConversation notices := by
  rcases notices with _ | ⟨notice, rest⟩
  · exact ⟨[], [], [], [], rfl, .inr ⟨rfl, rfl, rfl⟩, .inl rfl, .inl rfl⟩
  cases notice with
  | connected =>
      rcases rest with _ | ⟨second, rest⟩
      · exact ⟨[.connected], [], [], [], rfl, .inl rfl, .inl rfl, .inl rfl⟩
      by_cases secured : second = .encrypted
      · subst secured
        obtain ⟨_, later⟩ := hear_encrypted heard
        obtain ⟨received, closing, rfl, last⟩ := hear_reading later
        exact ⟨[.connected], [.encrypted], closing, received, rfl, .inl rfl, .inr rfl, last⟩
      · -- Without `Encrypted` the rest could follow bytes as well.
        have later : Phase.reading.hear (second :: rest) = some reached := by
          cases second <;> first | exact absurd rfl secured | cases heard | exact heard
        obtain ⟨received, closing, shape, last⟩ := hear_reading later
        exact ⟨[.connected], [], closing, received, congrArg _ shape, .inl rfl, .inl rfl, last⟩
  | disconnected =>
      cases hear_ended heard
      exact ⟨[], [], [.disconnected], [], rfl, .inr ⟨rfl, rfl, rfl⟩, .inl rfl,
        .inr ⟨_, rfl, trivial⟩⟩
  | error error =>
      cases hear_ended heard
      exact ⟨[], [], [.error error], [], rfl, .inr ⟨rfl, rfl, rfl⟩, .inl rfl,
        .inr ⟨_, rfl, trivial⟩⟩
  | encrypted => cases heard
  | bytes piece => cases heard

end Phase

/-! ## Reading the record -/

/-- The connects of a record, oldest first. -/
def connectTags : List Entry → List Tag
  | [] => []
  | .connects tag :: older => connectTags older ++ [tag]
  | _ :: older => connectTags older

/-- The epoch of the newest connect of a transport. -/
def current (conn : ConnId) : List Entry → Option Nat
  | [] => none
  | .connects tag :: older => if tag.conn = conn then some tag.epoch else current conn older
  | _ :: older => current conn older

/-- The callbacks between one connect and the next of its transport, oldest first. -/
def heard (tag : Tag) : List Entry → List Notice
  | [] => []
  | .callback origin notice :: older =>
      if origin.conn = tag.conn ∧ current tag.conn older = some tag.epoch then
        heard tag older ++ [notice]
      else heard tag older
  | _ :: older => heard tag older

/-- The frames written between one connect and the next of its transport, oldest
first. -/
def addressed (tag : Tag) : List Entry → List Bytes
  | [] => []
  | .writes conn frame :: older =>
      if conn = tag.conn ∧ current tag.conn older = some tag.epoch then
        addressed tag older ++ [frame]
      else addressed tag older
  | _ :: older => addressed tag older

@[simp] theorem connectTags_connects (tag : Tag) (older : List Entry) :
    connectTags (.connects tag :: older) = connectTags older ++ [tag] := rfl

theorem current_connects (conn : ConnId) (tag : Tag) (older : List Entry) :
    current conn (.connects tag :: older) =
      if tag.conn = conn then some tag.epoch else current conn older := rfl

/-- The current connection is one of those that were made. -/
theorem mem_connectTags_of_current {conn : ConnId} {epoch : Nat} {log : List Entry}
    (newest : current conn log = some epoch) : { conn, epoch } ∈ connectTags log := by
  induction log with
  | nil => cases newest
  | cons entry older inductionHypothesis =>
      cases entry with
      | connects tag =>
          rw [current_connects] at newest
          rw [connectTags_connects, List.mem_append]
          split at newest
          · rename_i same
            cases newest
            subst same
            exact .inr (List.mem_singleton_self _)
          · exact .inl (inductionHypothesis newest)
      | writes conn frame => exact inductionHypothesis newest
      | callback origin notice => exact inductionHypothesis newest

/-- Nothing was heard of a connection that was not made. -/
theorem heard_eq_nil {tag : Tag} {log : List Entry} (never : tag ∉ connectTags log) :
    heard tag log = [] := by
  induction log with
  | nil => rfl
  | cons entry older inductionHypothesis =>
      cases entry with
      | connects other =>
          rw [connectTags_connects, List.mem_append, not_or] at never
          exact inductionHypothesis never.1
      | writes conn frame => exact inductionHypothesis never
      | callback origin notice =>
          rw [heard, if_neg]
          · exact inductionHypothesis never
          · rintro ⟨_, newest⟩
            exact never (mem_connectTags_of_current newest)

/-- A frame is addressed to the connection current when it was written. -/
theorem addressed_writes_sublist (tag : Tag) (conn : ConnId) (frame : Bytes)
    (older : List Entry) :
    (addressed tag older).Sublist (addressed tag (.writes conn frame :: older)) := by
  rw [addressed]
  split
  · exact List.sublist_append_left _ _
  · exact List.Sublist.refl _

end Omairc.Net
