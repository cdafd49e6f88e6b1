import Mathlib.Algebra.GroupWithZero.Nat
import Mathlib.Data.List.Forall2
import Mathlib.Data.List.Sublists
import PipelineConsole.Proofs.Orchestrator.Announcements

/-!
# What becomes of notifications

Notifications are added one by one, marked as read and deleted, in any order. There is room for a
limited number of them, so that the oldest give way. What calls leave is, in order, what came in,
but for notifications that were deleted or gave way; and nothing happens to a notification that is
there, except that it is marked as read, which is counted once.

## Main definitions

* `Notification.Continues` — a notification is the same as before, or has been marked as read
* `NewsCall`, `NewsCall.carryOut`, `NewsCall.carryOutAll` — calls about notifications
* `NewsCall.received` — the notifications that have ever come in
* `NewsCall.turned`, `NewsCall.turnedIn`, `NewsCall.counts` — which are turned read, and how many

## Main results

* `NewsCall.continues_carryOut`, `NewsCall.continues_carryOutAll` — what is there has come in, in
  this order
* `NewsCall.vanishes_iff` — when a call takes a notification away
* `NewsCall.count?_eq_turned` — the answer of a call is the number of those that it turns read
* `NewsCall.notifications_are_kept` — all of this along a run
-/

namespace PipelineConsole

/-- The notification is the same as before, or has been marked as read since. -/
def Notification.Continues (now before : Notification) : Prop :=
  now = before ∨ now = { before with read := true }

namespace Notification.Continues

variable {n n' n'' : Notification}

theorem refl (n : Notification) : n.Continues n := .inl rfl

theorem trans (h : n''.Continues n') (h' : n'.Continues n) : n''.Continues n := by
  rcases h with rfl | rfl
  · exact h'
  · rcases h' with rfl | rfl <;> exact .inr rfl

theorem id_eq (h : n'.Continues n) : n'.id = n.id := by
  rcases h with rfl | rfl <;> rfl

/-- A notification that has been read stays as it is. -/
theorem eq_of_read (h : n'.Continues n) (hread : n.read = true) : n' = n := by
  rcases h with rfl | rfl
  · rfl
  · rw [← hread]

instance : Std.Refl Continues := ⟨refl⟩

instance : IsTrans Notification Continues := ⟨fun _ _ _ => trans⟩

end Notification.Continues

namespace Orchestrator

open Notification (Continues)
open Surroundings (moment)
open List (SublistForall₂ Forall₂)

/-- A call about notifications. -/
inductive NewsCall where
  | notify (o : Occasion) (about : Option String) (severity : Severity) (title message : String)
  | markRead (ids : List String)
  | delete (id : String)

namespace NewsCall

/-- The state after a call. -/
def carryOut (s : Orchestrator) : NewsCall → Orchestrator
  | notify o about severity title message => s.notify o about severity title message
  | markRead ids => (s.markRead ids).2
  | delete id => (deleteNotification id s).2

/-- The state after some calls. -/
def carryOutAll (s : Orchestrator) (calls : List NewsCall) : Orchestrator := calls.foldl carryOut s

/-- The notification that comes in with a call, if one does. -/
def news? : NewsCall → Option Notification
  | notify o about severity title message =>
    some ⟨o.freshId, about, severity, title, message, o.time, false⟩
  | markRead _ | delete _ => none

/-- The number that a call answers with, if it answers with one. -/
def count? (s : Orchestrator) : NewsCall → Option Nat
  | markRead ids => some (s.markRead ids).1
  | notify .. | delete _ => none

/-- The notifications that were there, and those that have come in with calls since. -/
def received (s : Orchestrator) (calls : List NewsCall) : List Notification :=
  s.notifications ++ calls.filterMap news?

/-- The notifications that are unread in one state and read in another. -/
def turned (s s' : Orchestrator) : List Notification :=
  s.notifications.filter fun n => !n.read && { n with read := true } ∈ s'.notifications

/-- The notifications that the calls of a run turn from unread to read. -/
def turnedIn (s : Orchestrator) : List NewsCall → List Notification
  | [] => []
  | c :: rest => turned s (c.carryOut s) ++ turnedIn (c.carryOut s) rest

/-- The numbers that the calls of a run answer with. -/
def counts (s : Orchestrator) : List NewsCall → List Nat
  | [] => []
  | c :: rest => (c.count? s).toList ++ counts (c.carryOut s) rest

section Call

variable {s s' : Orchestrator} {c : NewsCall} {ns ms : List Notification} {m n n' : Notification}

/-! ### One call -/

theorem notifications_delete (s : Orchestrator) (id : String) :
    ((delete id).carryOut s).notifications = s.notifications.filter (·.id ≠ id) := by
  rw [carryOut, deleteNotification_apply]

theorem notifications_markRead (s : Orchestrator) (ids : List String) :
    ((markRead ids).carryOut s).notifications =
      s.notifications.map fun n => if turnsRead ids n then { n with read := true } else n := rfl

/-- A call that brings a notification does nothing but add it. -/
theorem notifications_of_news (h : c.news? = some n) :
    (c.carryOut s).notifications = keep s.notifications n := by
  cases c with
  | notify =>
    rw [← Option.some.inj h]
    simp only [carryOut, Orchestrator.notify, keep]
  | markRead | delete => cases h

/-- As long as there is room, a notification is added at the end. -/
theorem keep_of_lt (h : ns.length < maxNotifications) (n : Notification) :
    keep ns n = ns ++ [n] := by
  have hnone : (ns ++ [n]).length - maxNotifications = 0 := by
    rw [List.length_append, List.length_singleton]
    omega
  rw [keep, hnone, List.drop_zero]

/-- When there is no room left, the first notification makes room for the new one. -/
theorem keep_of_eq (h : ns.length = maxNotifications) (n : Notification) :
    keep ns n = ns.tail ++ [n] := by
  have hdrop : (ns ++ [n]).length - maxNotifications = 1 := by
    rw [List.length_append, List.length_singleton]
    omega
  have hne : ns ≠ [] := by
    rintro rfl
    exact absurd h (by decide)
  rw [keep, hdrop, List.drop_one, List.tail_append_of_ne_nil hne]

theorem getLast?_keep (ns : List Notification) (n : Notification) :
    (keep ns n).getLast? = some n := by
  have hmax : 0 < maxNotifications := by decide
  have hsome : ¬(ns ++ [n]).length ≤ (ns ++ [n]).length - maxNotifications := by
    rw [List.length_append, List.length_singleton]
    omega
  rw [keep, List.getLast?_drop, if_neg hsome, List.getLast?_concat]

theorem length_keep_le (ns : List Notification) (n : Notification) :
    (keep ns n).length ≤ maxNotifications := by
  rw [keep, List.length_drop]
  omega

/-- A call does not exceed the room that there is. -/
theorem length_carryOut_le (h : s.notifications.length ≤ maxNotifications) (c : NewsCall) :
    (c.carryOut s).notifications.length ≤ maxNotifications := by
  cases c with
  | notify =>
    rw [notifications_of_news rfl]
    exact length_keep_le ..
  | markRead ids => rwa [notifications_markRead, List.length_map]
  | delete id =>
    rw [notifications_delete]
    exact Nat.le_trans (List.length_filter_le ..) h

theorem sublistForall₂_of_sublist (h : ns.Sublist ms) : SublistForall₂ Continues ns ms :=
  List.sublistForall₂_iff.2 ⟨ns, List.forall₂_refl ns, h⟩

/-- What is there after a call was there before or has come in with it, in this order. -/
theorem continues_carryOut (s : Orchestrator) (c : NewsCall) :
    SublistForall₂ Continues (c.carryOut s).notifications
      (s.notifications ++ c.news?.toList) := by
  cases c with
  | notify =>
    rw [notifications_of_news rfl]
    exact sublistForall₂_of_sublist (List.drop_sublist ..)
  | markRead ids =>
    rw [notifications_markRead, news?, Option.toList_none, List.append_nil]
    refine List.sublistForall₂_iff.2 ⟨s.notifications, ?_, List.Sublist.refl _⟩
    rw [List.forall₂_map_left_iff, List.forall₂_same]
    intro n _
    split
    · exact .inr rfl
    · exact .inl rfl
  | delete id =>
    rw [notifications_delete, news?, Option.toList_none, List.append_nil]
    exact sublistForall₂_of_sublist List.filter_sublist

/-- Notifications that continue others have their ids. -/
theorem ids_sublist (h : SublistForall₂ Continues ns ms) :
    (ns.map Notification.id).Sublist (ms.map Notification.id) := by
  obtain ⟨ks, hcontinues, hsub⟩ := List.sublistForall₂_iff.1 h
  have hids : ns.map Notification.id = ks.map Notification.id := by
    rw [← List.forall₂_eq_eq_eq, List.forall₂_map_left_iff, List.forall₂_map_right_iff]
    exact hcontinues.imp fun _ _ => Notification.Continues.id_eq
  exact hids ▸ hsub.map Notification.id

theorem exists_continues (h : SublistForall₂ Continues ns ms) (hn : n ∈ ns) :
    ∃ m ∈ ms, n.Continues m := by
  induction h with
  | nil => nomatch hn
  | @cons now before _ _ hcontinues _ ih =>
    rcases List.mem_cons.1 hn with rfl | hn
    · exact ⟨before, List.mem_cons_self, hcontinues⟩
    · obtain ⟨m, hm, hnm⟩ := ih hn
      exact ⟨m, List.mem_cons_of_mem before hm, hnm⟩
  | @cons_right before _ _ _ ih =>
    obtain ⟨m, hm, hnm⟩ := ih hn
    exact ⟨m, List.mem_cons_of_mem before hm, hnm⟩

/-- No two of the notifications have the same id. -/
def Distinct (ns : List Notification) : Prop := (ns.map Notification.id).Nodup

instance (ns : List Notification) : Decidable (Distinct ns) :=
  inferInstanceAs (Decidable (List.Nodup _))

theorem Distinct.eq_of_id (h : Distinct ns) (hm : m ∈ ns) (hn : n ∈ ns) (hid : m.id = n.id) :
    m = n :=
  List.inj_on_of_nodup_map h hm hn hid

theorem Distinct.of_continues (h : Distinct ms) (hcontinues : SublistForall₂ Continues ns ms) :
    Distinct ns :=
  List.Nodup.sublist (ids_sublist hcontinues) h

/-- A new notification makes another one vanish if and only if there is no room left and the other
is the first. -/
theorem vanishes_keep_iff (h : Distinct (ns ++ [m])) (hlength : ns.length ≤ maxNotifications)
    (hn : n ∈ ns) :
    (∀ n' ∈ keep ns m, n'.id ≠ n.id) ↔ ns.length = maxNotifications ∧ ns.head? = some n := by
  rcases Nat.lt_or_eq_of_le hlength with hroom | hfull
  · rw [keep_of_lt hroom]
    constructor
    · intro hgone
      exact absurd rfl (hgone n (List.mem_append_left _ hn))
    · rintro ⟨hfull, -⟩
      exact absurd hfull (Nat.ne_of_lt hroom)
  · rw [keep_of_eq hfull]
    obtain ⟨first, rest, rfl⟩ := List.exists_cons_of_ne_nil (List.ne_nil_of_mem hn)
    rw [List.tail_cons, List.head?_cons, Option.some.injEq]
    constructor
    · intro hgone
      rcases List.mem_cons.1 hn with rfl | hn
      · exact ⟨hfull, rfl⟩
      · exact absurd rfl (hgone n (List.mem_append_left _ hn))
    · rintro ⟨-, rfl⟩ n' hn' hid
      exact (List.nodup_cons.1 h).1 (hid ▸ List.mem_map_of_mem hn')

/-- A notification vanishes with a call if and only if the call deletes it, or it is the first and
has to make room for a new one. -/
theorem vanishes_iff (h : Distinct (s.notifications ++ c.news?.toList))
    (hlength : s.notifications.length ≤ maxNotifications) (hn : n ∈ s.notifications) :
    (∀ n' ∈ (c.carryOut s).notifications, n'.id ≠ n.id) ↔
      c = delete n.id ∨ (c.news?.isSome ∧ s.notifications.length = maxNotifications ∧
        s.notifications.head? = some n) := by
  cases c with
  | notify o about severity title message =>
    simp only [reduceCtorEq, false_or, news?, Option.isSome_some, true_and]
    rw [notifications_of_news rfl]
    exact vanishes_keep_iff h hlength hn
  | markRead ids =>
    simp only [reduceCtorEq, false_or, news?, Option.isSome_none, Bool.false_eq_true, false_and,
      iff_false, not_forall, not_not]
    refine ⟨_, List.mem_map_of_mem hn, ?_⟩
    split <;> rfl
  | delete id =>
    rw [notifications_delete]
    simp only [delete.injEq, news?, Option.isSome_none, Bool.false_eq_true, false_and, or_false]
    constructor
    · intro hgone
      by_contra hne
      have hstays : n ∈ s.notifications.filter (·.id ≠ id) :=
        List.mem_filter.2 ⟨hn, decide_eq_true (Ne.symm hne)⟩
      exact hgone n hstays rfl
    · rintro rfl n' hn'
      exact of_decide_eq_true (List.mem_filter.1 hn').2

/-- Notifications that stay as they are do not turn read. -/
theorem turned_eq_nil (h : Distinct ns) (hs : s.notifications ⊆ ns)
    (hs' : s'.notifications ⊆ ns) : turned s s' = [] := by
  rw [turned, List.filter_eq_nil_iff]
  intro n hn hturned
  obtain ⟨hunread, hread⟩ := Bool.and_eq_true_iff.1 hturned
  have hsame := h.eq_of_id (hs' (of_decide_eq_true hread)) (hs hn) rfl
  rw [← hsame] at hunread
  exact absurd hunread (by simp)

/-- To mark notifications as read turns those read that are named and have not been read. -/
theorem turned_markRead (h : Distinct s.notifications) (ids : List String) :
    turned s ((markRead ids).carryOut s) = s.notifications.filter (turnsRead ids) := by
  refine List.filter_congr fun n hn => ?_
  rw [notifications_markRead, Bool.eq_iff_iff]
  constructor
  · intro hturned
    obtain ⟨hunread, hread⟩ := Bool.and_eq_true_iff.1 hturned
    obtain ⟨m, hm, hmn⟩ := List.mem_map.1 (of_decide_eq_true hread)
    have hid : m.id = n.id := by
      have hid := congrArg Notification.id hmn
      split at hid <;> exact hid
    obtain rfl := h.eq_of_id hm hn hid
    by_contra hnot
    rw [if_neg hnot] at hmn
    rw [hmn] at hunread
    exact absurd hunread (by simp)
  · intro hturns
    refine Bool.and_eq_true_iff.2 ⟨(Bool.and_eq_true_iff.1 hturns).1, decide_eq_true ?_⟩
    exact List.mem_map.2 ⟨n, hn, if_pos hturns⟩

/-- The number that a call answers with, if it answers with one, is that of the notifications that
it turns read. -/
theorem getD_count? (h : Distinct (s.notifications ++ c.news?.toList)) :
    (c.count? s).getD 0 = (turned s (c.carryOut s)).length := by
  have hbefore := List.subset_append_left s.notifications c.news?.toList
  cases c with
  | notify =>
    rw [turned_eq_nil h hbefore]
    · rfl
    · rw [notifications_of_news rfl]
      exact (List.drop_sublist ..).subset
  | markRead ids =>
    rw [news?, Option.toList_none, List.append_nil] at h
    rw [turned_markRead h, ← List.countP_eq_length_filter]
    rfl
  | delete id =>
    rw [turned_eq_nil h hbefore]
    · rfl
    · rw [notifications_delete]
      exact fun n hn => hbefore (List.mem_filter.1 hn).1

end Call

/-! ### Runs -/

section Run

variable {s : Orchestrator} {c : NewsCall} {calls done more : List NewsCall} {n n' : Notification}

theorem carryOutAll_append (s : Orchestrator) (done more : List NewsCall) :
    carryOutAll s (done ++ more) = carryOutAll (carryOutAll s done) more :=
  List.foldl_append

theorem received_cons (s : Orchestrator) (c : NewsCall) (rest : List NewsCall) :
    received s (c :: rest) = s.notifications ++ c.news?.toList ++ rest.filterMap news? := by
  cases hnews : c.news? <;> simp [received, hnews]

theorem received_append (s : Orchestrator) (done more : List NewsCall) :
    received s (done ++ more) = received s done ++ more.filterMap news? := by
  rw [received, List.filterMap_append, ← List.append_assoc, received]

/-- What has come in by the end of a run was there at some point of it, or has come in since. -/
theorem continues_received (s : Orchestrator) (done more : List NewsCall) :
    SublistForall₂ Continues (received (carryOutAll s done) more) (received s (done ++ more)) := by
  induction done generalizing s with
  | nil => exact sublistForall₂_of_sublist (List.Sublist.refl _)
  | cons c rest ih =>
    refine IsTrans.trans _ _ _ (ih (c.carryOut s)) ?_
    obtain ⟨ks, hcontinues, hsub⟩ := List.sublistForall₂_iff.1 (continues_carryOut s c)
    rw [List.cons_append, received_cons]
    refine List.sublistForall₂_iff.2 ⟨ks ++ (rest ++ more).filterMap news?, ?_, ?_⟩
    · exact List.rel_append hcontinues (List.forall₂_refl _)
    · exact hsub.append_right _

theorem continues_carryOutAll (s : Orchestrator) (calls : List NewsCall) :
    SublistForall₂ Continues (carryOutAll s calls).notifications (received s calls) := by
  have hcontinues := continues_received s calls []
  rwa [received, List.filterMap_nil, List.append_nil, List.append_nil] at hcontinues

theorem length_carryOutAll_le (h : s.notifications.length ≤ maxNotifications)
    (calls : List NewsCall) : (carryOutAll s calls).notifications.length ≤ maxNotifications := by
  induction calls generalizing s with
  | nil => exact h
  | cons c rest ih => exact ih (length_carryOut_le h c)

/-- Whatever calls are made, a notification that is still there is the same, or has been marked as
read. -/
theorem continues_of_id (h : Distinct (received s calls)) (hn : n ∈ s.notifications)
    (hn' : n' ∈ (carryOutAll s calls).notifications) (hid : n'.id = n.id) : n'.Continues n := by
  obtain ⟨m, hm, hcontinues⟩ := exists_continues (continues_carryOutAll s calls) hn'
  obtain rfl := h.eq_of_id hm (List.mem_append_left _ hn) (hcontinues.id_eq.symm.trans hid)
  exact hcontinues

theorem Distinct.carryOut (h : Distinct (received s (c :: more))) :
    Distinct (received (c.carryOut s) more) :=
  h.of_continues (continues_received s [c] more)

theorem Distinct.call (h : Distinct (received s (c :: more))) :
    Distinct (s.notifications ++ c.news?.toList) := by
  rw [received_cons] at h
  exact List.Nodup.sublist ((List.sublist_append_left ..).map _) h

/-- What is turned read in a run is there, unread, at some point of it. -/
theorem exists_of_mem_turnedIn (h : n ∈ turnedIn s calls) :
    n.read = false ∧ ∃ done more, done ++ more = calls ∧
      n ∈ (carryOutAll s done).notifications := by
  induction calls generalizing s with
  | nil => nomatch h
  | cons c rest ih =>
    rcases List.mem_append.1 h with hturned | hlater
    · obtain ⟨hn, hturned⟩ := List.mem_filter.1 hturned
      exact ⟨by simpa using (Bool.and_eq_true_iff.1 hturned).1, [], c :: rest, rfl, hn⟩
    · obtain ⟨hunread, done, more, rfl, hn⟩ := ih hlater
      exact ⟨hunread, c :: done, more, rfl, hn⟩

/-- No notification is turned read twice. -/
theorem distinct_turnedIn (h : Distinct (received s calls)) : Distinct (turnedIn s calls) := by
  induction calls generalizing s with
  | nil => exact List.nodup_nil
  | cons c rest ih =>
    have hrest := h.carryOut
    rw [Distinct, turnedIn, List.map_append, List.nodup_append]
    refine ⟨?_, ih hrest, ?_⟩
    · have hsub : (turned s (c.carryOut s)).Sublist (s.notifications ++ c.news?.toList) :=
        List.filter_sublist.trans (List.sublist_append_left ..)
      exact List.Nodup.sublist (hsub.map _) h.call
    · intro id hid id' hid' heq
      obtain ⟨n, hn, rfl⟩ := List.mem_map.1 hid
      obtain ⟨n', hn', rfl⟩ := List.mem_map.1 hid'
      have hread := of_decide_eq_true (Bool.and_eq_true_iff.1 (List.mem_filter.1 hn).2).2
      obtain ⟨hunread, done, more, rfl, hmem⟩ := exists_of_mem_turnedIn hn'
      rw [received_append] at hrest
      have hdone : Distinct (received (c.carryOut s) done) :=
        List.Nodup.sublist ((List.sublist_append_left ..).map _) hrest
      have hsame := (continues_of_id hdone hread hmem heq.symm).eq_of_read rfl
      rw [hsame] at hunread
      exact absurd hunread (by simp)

/-- The answers of a run sum up to the number of notifications that it turns read. -/
theorem sum_counts (h : Distinct (received s calls)) :
    (counts s calls).sum = (turnedIn s calls).length := by
  induction calls generalizing s with
  | nil => rfl
  | cons c rest ih =>
    have hcall := getD_count? h.call
    rw [counts, List.sum_append, ih h.carryOut, turnedIn, List.length_append, ← hcall]
    cases c.count? s <;> simp

end Run

/-- From the first notifications on, as long as all that come in have ids of their own: there are
never more notifications than there is room for, and they are in the order in which they came in. A
new one is there, as the last. One vanishes just when it is deleted or, being the first, has to make
room for a new one. One that is still there after some calls is the same or, where it was unread,
has been marked as read. A call answers with the number of those that it turns read, and in the
whole run none is turned read twice. -/
theorem notifications_are_kept (welcomeAt lagAt : Timestamp) {calls : List NewsCall}
    (h : Distinct (received (fresh welcomeAt lagAt) calls)) :
    let start := fresh welcomeAt lagAt
    let after := carryOutAll start
    (∀ done more, done ++ more = calls →
      (after done).notifications.length ≤ maxNotifications ∧
        SublistForall₂ Continues (after done).notifications (received start done)) ∧
      (∀ done c more, done ++ c :: more = calls →
        (∀ n, c.news? = some n → (after (done ++ [c])).notifications.getLast? = some n) ∧
          (∀ n ∈ (after done).notifications,
            (∀ n' ∈ (after (done ++ [c])).notifications, n'.id ≠ n.id) ↔
              c = delete n.id ∨
                (c.news?.isSome ∧ (after done).notifications.length = maxNotifications ∧
                  (after done).notifications.head? = some n)) ∧
          (c.count? (after done)).getD 0 =
            (turned (after done) (after (done ++ [c]))).length) ∧
      (∀ done later more, done ++ later ++ more = calls →
        ∀ n ∈ (after done).notifications, ∀ n' ∈ (after (done ++ later)).notifications,
          n'.id = n.id → n' = n ∨ n.read = false ∧ n' = { n with read := true }) ∧
      (counts start calls).sum = (turnedIn start calls).length ∧
      Distinct (turnedIn start calls) := by
  intro start after
  -- What has come in by the end of a part of the run has ids of its own as well.
  have hpart (done more : List NewsCall) (hcalls : done ++ more = calls) :
      Distinct (received (after done) more) := by
    subst hcalls
    exact h.of_continues (continues_received start done more)
  have hstart : start.notifications.length ≤ maxNotifications :=
    (by decide : 2 ≤ maxNotifications)
  have hroom (done : List NewsCall) : (after done).notifications.length ≤ maxNotifications :=
    length_carryOutAll_le hstart done
  have hstep (done : List NewsCall) (c : NewsCall) :
      after (done ++ [c]) = c.carryOut (after done) := carryOutAll_append start done [c]
  refine ⟨fun done more _ => ⟨hroom done, continues_carryOutAll start done⟩, ?_, ?_,
    sum_counts h, distinct_turnedIn h⟩
  · intro done c more hcalls
    have hcall := (hpart done (c :: more) hcalls).call
    rw [hstep]
    refine ⟨fun n hnews => ?_, fun n hn => vanishes_iff hcall (hroom done) hn, getD_count? hcall⟩
    rw [notifications_of_news hnews]
    exact getLast?_keep (after done).notifications n
  · intro done later more hcalls n hn n' hn' hid
    have hdone := hpart done (later ++ more) (List.append_assoc .. ▸ hcalls)
    rw [received_append] at hdone
    have hlater : Distinct (received (after done) later) :=
      List.Nodup.sublist ((List.sublist_append_left ..).map _) hdone
    rw [show after (done ++ later) = carryOutAll (after done) later from
      carryOutAll_append start done later] at hn'
    have hcontinues := continues_of_id hlater hn hn' hid
    cases hread : n.read with
    | true => exact .inl (hcontinues.eq_of_read hread)
    | false => exact hcontinues.imp_right fun hmarked => ⟨rfl, hmarked⟩

/-- Two notifications are marked as read, one of them again; the first one is deleted. -/
def readAgain : List NewsCall :=
  let welcome := "9f1c2a7e-6a51-4c38-9d5f-2f3b8e0c1a01"
  [notify ⟨0, moment 2, "n-1", []⟩ (some "a") .info "Pipeline Running" "Pipeline a is now Running",
    markRead ["n-1", welcome, "n-1", "n-0"], delete welcome, markRead ["n-1", welcome],
    notify ⟨5, moment 3, "n-2", []⟩ none .error "Disk full" ""]

theorem readAgain_counted_once :
    let start := fresh (moment 0) (moment 1)
    Distinct (received start readAgain) ∧ counts start readAgain = [2, 0] ∧
      (turnedIn start readAgain).length = 2 ∧ Distinct (turnedIn start readAgain) := by
  intro start
  have hdistinct : Distinct (received start readAgain) := by decide
  have hcounts : counts start readAgain = [2, 0] := by decide
  obtain ⟨-, -, -, hsum, honce⟩ := notifications_are_kept (moment 0) (moment 1) hdistinct
  exact ⟨hdistinct, hcounts, hsum ▸ hcounts ▸ rfl, honce⟩

end NewsCall

end Orchestrator

end PipelineConsole
