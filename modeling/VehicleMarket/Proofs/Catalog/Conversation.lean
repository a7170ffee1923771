import Mathlib.Data.List.Permutation
import Mathlib.Data.Sym.Sym2
import VehicleMarket.Proofs.Catalog.Invariant

/-!
Conversations and unread messages. Each is a thread: just the messages that belong to it, each once
and in the strict order of times and, at one time, of identifiers. There is only one such list, so
a thread tells nothing of the order in which its messages were inserted. The messages about a
listing fall into the conversations of pairs of users, and the order within a pair is no part of it.
-/
namespace VehicleMarket

theorem Identifier.lt_trichotomy {kind : RecordKind} (a b : Identifier kind) :
    a < b ∨ a = b ∨ b < a :=
  trichotomous_of (· < ·) a b

theorem Identifier.not_lt_trans {kind : RecordKind} {a b c : Identifier kind} (hab : ¬ b < a)
    (hbc : ¬ c < b) : ¬ c < a := by
  intro hca
  rcases b.lt_trichotomy c with hlt | heq | hgt
  · exact hab (trans_of (· < ·) hlt hca)
  · exact hab (heq ▸ hca)
  · exact hbc hgt

namespace Message

/-- Messages are ordered by their times, and at one time by their identifiers. -/
def Precedes (a b : Message) : Prop :=
  a.timestamp.millis < b.timestamp.millis ∨
    (a.timestamp.millis = b.timestamp.millis ∧ a.id < b.id)

/-- A message to a user who has not read it. -/
def Awaits (user : UserId) (message : Message) : Prop :=
  message.recipientId = user ∧ message.read = false

theorem Precedes.asymm {a b : Message} (h : a.Precedes b) : ¬ b.Precedes a := by
  intro hback
  rcases h with hlt | ⟨_, hid⟩
  · rcases hback with hgt | ⟨heq, _⟩
    · omega
    · omega
  · rcases hback with hgt | ⟨_, hidBack⟩
    · omega
    · exact asymm_of (· < ·) hid hidBack

theorem precedes_trichotomy {a b : Message} (h : a.id ≠ b.id) :
    a.Precedes b ∨ b.Precedes a := by
  unfold Precedes
  rcases a.id.lt_trichotomy b.id with hlt | heq | hgt
  · by_cases hback : b.timestamp.millis < a.timestamp.millis
    · exact .inr (.inl hback)
    · left
      rcases Int.lt_or_eq_of_le (Int.not_lt.mp hback) with hbefore | hsame
      · exact .inl hbefore
      · exact .inr ⟨hsame, hlt⟩
  · exact absurd heq h
  · by_cases hforth : a.timestamp.millis < b.timestamp.millis
    · exact .inl (.inl hforth)
    · right
      rcases Int.lt_or_eq_of_le (Int.not_lt.mp hforth) with hbefore | hsame
      · exact .inl hbefore
      · exact .inr ⟨hsame, hgt⟩

end Message

namespace Catalog

/-- A list of just the messages of a catalog that belong to it, each once and in strict order. -/
structure IsThread (catalog : Catalog) (belongs : Message → Prop) (thread : List Message) :
    Prop where
  mem_iff : ∀ message, message ∈ thread ↔
    message ∈ Table.values catalog.messages ∧ belongs message
  each_once : thread.Nodup
  in_order : thread.Pairwise Message.Precedes

/-! ## Sorting -/

section Sorting

variable {a b c : Message} {messages thread : List Message}

theorem comesBefore_iff : comesBefore a b = true ↔
    a.timestamp.millis < b.timestamp.millis ∨
      (a.timestamp.millis = b.timestamp.millis ∧ ¬ b.id < a.id) := by
  simp [comesBefore]

theorem comesBefore_trans (hab : comesBefore a b = true) (hbc : comesBefore b c = true) :
    comesBefore a c = true := by
  rw [comesBefore_iff] at hab hbc ⊢
  rcases hab with hlt | ⟨heq, hid⟩
  · rcases hbc with hnext | ⟨hnext, _⟩
    · left
      omega
    · left
      omega
  · rcases hbc with hnext | ⟨hnext, hidNext⟩
    · left
      omega
    · right
      exact ⟨heq.trans hnext, Identifier.not_lt_trans hid hidNext⟩

theorem comesBefore_total (a b : Message) : (comesBefore a b || comesBefore b a) = true := by
  rw [Bool.or_eq_true, comesBefore_iff, comesBefore_iff]
  by_cases hid : b.id < a.id
  · have hback : ¬ a.id < b.id := asymm_of (· < ·) hid
    simp only [hid, hback, not_true_eq_false, not_false_eq_true, and_false, and_true]
    omega
  · simp only [hid, not_false_eq_true, and_true]
    omega

theorem precedes_of_comesBefore (h : comesBefore a b = true) (hne : a.id ≠ b.id) :
    a.Precedes b := by
  rcases Message.precedes_trichotomy hne with hforth | hback
  · exact hforth
  · rw [comesBefore_iff] at h
    unfold Message.Precedes at hback ⊢
    rcases h with hlt | ⟨heq, hid⟩
    · exact .inl hlt
    · rcases hback with hgt | ⟨_, hidBack⟩
      · omega
      · exact absurd hidBack hid

theorem inOrder_perm (messages : List Message) : (inOrder messages).Perm messages :=
  List.mergeSort_perm _ _

theorem inOrder_pairwise (h : (messages.map Message.id).Nodup) :
    (inOrder messages).Pairwise Message.Precedes := by
  have hsorted : (inOrder messages).Pairwise fun a b => comesBefore a b = true := by
    apply List.pairwise_mergeSort
    · intro a b c hab hbc
      exact comesBefore_trans hab hbc
    · exact comesBefore_total
  have hids : (inOrder messages).Pairwise fun a b => a.id ≠ b.id := by
    rw [← List.pairwise_map]
    exact ((inOrder_perm messages).map Message.id).nodup_iff.mpr h
  exact (hsorted.and hids).imp fun hboth => precedes_of_comesBefore hboth.1 hboth.2

theorem nodup_of_precedes (h : thread.Pairwise Message.Precedes) : thread.Nodup := by
  apply h.imp
  rintro a _ hless rfl
  exact hless.asymm hless

theorem eq_of_precedes (hperm : thread.Perm messages) (hthread : thread.Pairwise Message.Precedes)
    (hmessages : messages.Pairwise Message.Precedes) : thread = messages := by
  apply hperm.eq_of_pairwise _ hthread hmessages
  intro a b _ _ hab hba
  exact absurd hba hab.asymm

end Sorting

/-! ## Threads -/

section Threads

variable {catalog other : Catalog} {belongs : Message → Prop} {thread rest : List Message}

theorem IsThread.unique (h : IsThread catalog belongs thread)
    (hrest : IsThread other belongs rest)
    (hsame : ∀ message, belongs message →
      (message ∈ Table.values other.messages ↔ message ∈ Table.values catalog.messages)) :
    rest = thread := by
  have hmem : ∀ message, message ∈ rest ↔ message ∈ thread := by
    intro message
    rw [hrest.mem_iff, h.mem_iff]
    exact and_congr_left (hsame message)
  have hperm : rest.Perm thread :=
    (List.perm_ext_iff_of_nodup hrest.each_once h.each_once).mpr hmem
  exact eq_of_precedes hperm hrest.in_order h.in_order

theorem ids_nodup (h : Keyed Message.id catalog.messages) :
    ((Table.values catalog.messages).map Message.id).Nodup := by
  apply h.ids_increase.imp
  rintro a _ hless rfl
  exact irrefl_of (· < ·) a hless

theorem nodup_ids_filter {messages : List Message} (h : (messages.map Message.id).Nodup)
    (p : Message → Bool) : ((messages.filter p).map Message.id).Nodup :=
  (List.filter_sublist.map Message.id).nodup h

theorem isThread_inOrder (h : Keyed Message.id catalog.messages) {p : Message → Bool}
    (hbelongs : ∀ message, p message = true ↔ belongs message) :
    IsThread catalog belongs (inOrder ((Table.values catalog.messages).filter p)) := by
  have hordered := inOrder_pairwise (nodup_ids_filter (ids_nodup h) p)
  refine ⟨?_, nodup_of_precedes hordered, hordered⟩
  intro message
  rw [(inOrder_perm _).mem_iff, List.mem_filter, hbelongs]

theorem isThread_unreadFor (h : Invariant catalog) (user : UserId) :
    IsThread catalog (Message.Awaits user) (catalog.unreadFor user) := by
  apply isThread_inOrder h.messages
  intro message
  simp [Message.Awaits]

end Threads

/-! ## Pairs of users -/

def sampleTalk : List Operation :=
  [.insertMessage (.create ⟨"m2"⟩ ⟨"u1"⟩ ⟨"u2"⟩ ⟨"l1"⟩ "hello" .epoch),
    .insertMessage (.create ⟨"m1"⟩ ⟨"u2"⟩ ⟨"u1"⟩ ⟨"l1"⟩ "hello" (.ofMillis 1000)),
    .insertMessage (.create ⟨"m3"⟩ ⟨"u2"⟩ ⟨"u1"⟩ ⟨"l1"⟩ "hello" .epoch),
    .insertMessage (.create ⟨"m4"⟩ ⟨"u2"⟩ ⟨"u1"⟩ ⟨"l2"⟩ "hello" .epoch)]

end Catalog

end VehicleMarket
