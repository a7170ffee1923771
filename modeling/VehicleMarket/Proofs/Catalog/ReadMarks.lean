import VehicleMarket.Proofs.Catalog.Conversation

/-!
Reading a conversation. It sets the read mark of what its reader has received about the listing and
touches nothing else, so a thread only loses or shows marks by it: a conversation is the one from
before with the new marks, and an unread thread is the one from before without the messages that
were read. What is left of a thread keeps its order, because a thread has only one.
-/
namespace VehicleMarket

namespace Message

/-- A message that a reader has received about a listing, whether or not it has been read. -/
def reaches (message : Message) (listing : ListingId) (reader : UserId) : Bool :=
  message.listingId == listing && message.recipientId == reader

def afterReading (listing : ListingId) (reader : UserId) (message : Message) : Message :=
  { message with read := message.read || message.reaches listing reader }

theorem afterReading_of_read {listing : ListingId} {reader : UserId} {message : Message}
    (h : (message.afterReading listing reader).read = message.read) :
    message.afterReading listing reader = message :=
  congrArg (fun read => { message with read }) h

theorem afterReading_twice (listing : ListingId) (reader : UserId) (message : Message) :
    (message.afterReading listing reader).afterReading listing reader =
      message.afterReading listing reader := by
  apply afterReading_of_read
  show (message.read || message.reaches listing reader || message.reaches listing reader) = _
  rw [Bool.or_assoc, Bool.or_self]
  rfl

end Message

namespace Catalog

/-- What reading the conversation about a listing must come to: the number of messages read, and the
catalog afterwards. -/
structure ReadExactly (catalog : Catalog) (listing : ListingId) (reader : UserId) (count : Nat)
    (changed : Catalog) : Prop where
  counted : count =
    ((catalog.unreadFor reader).filter fun message => message.listingId == listing).length
  taken_off : changed.unreadFor reader =
    (catalog.unreadFor reader).filter fun message => message.listingId != listing
  other_readers : ∀ other, other ≠ reader → changed.unreadFor other = catalog.unreadFor other
  conversations : ∀ about a b, changed.conversation about a b =
    (catalog.conversation about a b).map (Message.afterReading listing reader)
  only_marks : changed = { catalog with
    messages := Table.mapValues catalog.messages (Message.afterReading listing reader) }
  second_reading : changed.markConversationRead listing reader = (0, changed)

/-! ## The marks -/

section Marks

variable (catalog : Catalog) (listing : ListingId) (reader : UserId)

theorem markRead_eq_afterReading (message : Message) :
    (if awaits listing reader message then message.markRead else message) =
      message.afterReading listing reader := by
  by_cases hawaits : awaits listing reader message = true
  · rw [if_pos hawaits]
    have hreaches : message.reaches listing reader = true := (Bool.and_eq_true_iff.mp hawaits).1
    simp [Message.markRead, Message.afterReading, hreaches]
  · rw [if_neg hawaits]
    symm
    apply Message.afterReading_of_read
    show (message.read || message.reaches listing reader) = message.read
    have hsplit : ¬ (message.reaches listing reader && !message.read) = true := hawaits
    cases hread : message.read with
    | true => rfl
    | false => simpa [hread] using hsplit

theorem markConversationRead_messages :
    (catalog.markConversationRead listing reader).2 = { catalog with
      messages := Table.mapValues catalog.messages (Message.afterReading listing reader) } := by
  show ({ catalog with messages := _ } : Catalog) = _
  simp only [markRead_eq_afterReading]

theorem values_afterReading :
    Table.values (catalog.markConversationRead listing reader).2.messages =
      (Table.values catalog.messages).map (Message.afterReading listing reader) := by
  rw [markConversationRead_messages, Table.values_mapValues]

theorem awaits_afterReading (message : Message) :
    awaits listing reader (message.afterReading listing reader) = false := by
  show (message.reaches listing reader &&
    !(message.read || message.reaches listing reader)) = false
  cases message.reaches listing reader with
  | true => simp
  | false => rfl

theorem markConversationRead_twice :
    (catalog.markConversationRead listing reader).2.markConversationRead listing reader =
      (0, (catalog.markConversationRead listing reader).2) := by
  apply Prod.ext
  · show List.countP _ _ = 0
    rw [values_afterReading, List.countP_map, List.countP_eq_zero]
    intro message _
    simp [awaits_afterReading]
  · rw [markConversationRead_messages _ listing reader, markConversationRead_messages,
      Table.mapValues_mapValues]
    simp only [Message.afterReading_twice]

end Marks

/-! ## Threads -/

section Threads

variable {catalog : Catalog} {messages : List Message}

/-- Sorting the messages that are left or leaving messages out of the thread is the same. -/
theorem inOrder_filter (h : (messages.map Message.id).Nodup) (p : Message → Bool) :
    inOrder (messages.filter p) = (inOrder messages).filter p := by
  have hperm : (inOrder (messages.filter p)).Perm ((inOrder messages).filter p) :=
    (inOrder_perm _).trans ((inOrder_perm messages).filter p).symm
  apply eq_of_precedes hperm
  · exact inOrder_pairwise (nodup_ids_filter h p)
  · exact (inOrder_pairwise h).sublist List.filter_sublist

theorem inOrder_map {change : Message → Message}
    (htime : ∀ message, (change message).timestamp = message.timestamp)
    (hid : ∀ message, (change message).id = message.id) (messages : List Message) :
    inOrder (messages.map change) = (inOrder messages).map change := by
  symm
  apply List.map_mergeSort
  intro a _ b _
  simp only [comesBefore, htime, hid]

theorem conversation_afterReading (catalog : Catalog) (listing about : ListingId)
    (reader a b : UserId) :
    (catalog.markConversationRead listing reader).2.conversation about a b =
      (catalog.conversation about a b).map (Message.afterReading listing reader) := by
  rw [conversation, values_afterReading, List.filter_map]
  apply inOrder_map
  · intro message
    rfl
  · intro message
    rfl

theorem unread_afterReading (listing : ListingId) (reader user : UserId) (message : Message) :
    (message.recipientId == user && !(message.afterReading listing reader).read) =
      (!message.reaches listing reader && (message.recipientId == user && !message.read)) := by
  show (message.recipientId == user && !(message.read || message.reaches listing reader)) = _
  rw [Bool.not_or, ← Bool.and_assoc, Bool.and_comm]

theorem filter_unread_afterReading (messages : List Message) (listing : ListingId)
    (reader user : UserId) :
    ((messages.map (Message.afterReading listing reader)).filter fun message =>
        message.recipientId == user && !message.read) =
      (messages.filter fun message => message.recipientId == user && !message.read).filter
        fun message => !message.reaches listing reader := by
  rw [List.filter_map, List.filter_filter]
  have hkept := List.filter_congr fun message (_ : message ∈ messages) =>
    unread_afterReading listing reader user message
  refine (congrArg (List.map _) hkept).trans ?_
  -- What is still unread was not reached, so the marking leaves it as it is.
  apply (List.map_congr_left _).trans (List.map_id _)
  intro message hmem
  have hunread := (List.mem_filter.mp hmem).2
  rw [Bool.and_eq_true, Bool.not_eq_true'] at hunread
  apply Message.afterReading_of_read
  show (message.read || message.reaches listing reader) = message.read
  rw [hunread.1, Bool.or_false]

theorem unreadFor_afterReading (h : Keyed Message.id catalog.messages) (listing : ListingId)
    (reader user : UserId) :
    (catalog.markConversationRead listing reader).2.unreadFor user =
      (catalog.unreadFor user).filter fun message => !message.reaches listing reader := by
  rw [unreadFor, values_afterReading, filter_unread_afterReading,
    inOrder_filter (nodup_ids_filter (ids_nodup h) _)]
  rfl

end Threads

/-- In a reachable catalog a reading of the conversation about a listing counts and takes off what
the reader had not read about the listing, and changes nothing but the marks of these messages. -/
theorem conversation_read_exactly {catalog : Catalog} (h : Reachable catalog) (listing : ListingId)
    (reader : UserId) :
    ReadExactly catalog listing reader (catalog.markConversationRead listing reader).1
      (catalog.markConversationRead listing reader).2 where
  counted := by
    have hperm := (inOrder_perm ((Table.values catalog.messages).filter fun message =>
      message.recipientId == reader && !message.read)).filter
        fun message => message.listingId == listing
    show (Table.values catalog.messages).countP (awaits listing reader) = _
    rw [unreadFor, hperm.length_eq, List.filter_filter, List.countP_eq_length_filter]
    congr 1
    apply List.filter_congr
    intro message _
    exact Bool.and_assoc _ _ _
  taken_off := by
    rw [unreadFor_afterReading h.invariant.messages]
    apply List.filter_congr
    intro message hmem
    have hrecipient := ((isThread_unreadFor h.invariant reader).mem_iff message).mp hmem |>.2.1
    show (!(message.listingId == listing && message.recipientId == reader)) = _
    rw [beq_iff_eq.mpr hrecipient, Bool.and_true]
    rfl
  other_readers := by
    intro other hne
    rw [unreadFor_afterReading h.invariant.messages, List.filter_eq_self]
    intro message hmem
    have hrecipient := ((isThread_unreadFor h.invariant other).mem_iff message).mp hmem |>.2.1
    have hnot : (message.recipientId == reader) = false :=
      beq_eq_false_iff_ne.mpr (hrecipient ▸ hne)
    simp [Message.reaches, hnot]
  conversations about a b := conversation_afterReading catalog listing about reader a b
  only_marks := markConversationRead_messages catalog listing reader
  second_reading := markConversationRead_twice catalog listing reader

theorem sample_talk_read_exactly :
    ((empty.run sampleTalk).markConversationRead ⟨"l1"⟩ ⟨"u1"⟩).1 = 2 ∧
      (((empty.run sampleTalk).markConversationRead ⟨"l1"⟩ ⟨"u1"⟩).2.unreadFor ⟨"u1"⟩).map
        Message.id = [⟨"m4"⟩] ∧
      ReadExactly (empty.run sampleTalk) ⟨"l1"⟩ ⟨"u1"⟩ 2
        ((empty.run sampleTalk).markConversationRead ⟨"l1"⟩ ⟨"u1"⟩).2 :=
  ⟨by decide +kernel, by cbv,
    conversation_read_exactly (Reachable.empty.run sampleTalk) ⟨"l1"⟩ ⟨"u1"⟩⟩

end Catalog

end VehicleMarket
