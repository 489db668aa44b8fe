import ChatSC.Backend.ChatCalls
import Mathlib.Data.List.Nodup

/-!
# Membership of conversations

The part of the chat collections that says who belongs to a conversation, `Membership`: the
conversations with their types, the participant records with their states, and the log of the
membership events.  Records are never deleted, so a user may have several of them; what must agree
is that in a group a user has one active record when the last entry about the user joins, and none
otherwise (`Membership.Inv.agrees`).

The operations of the service change the records first and write the log entries afterwards; the
entries that are still to be written are the `pending` ones.
-/

namespace ChatSC.Spec

open Backend Collection

/-- A participant record, as far as membership goes. -/
structure Member where
  record : ObjectId
  conversation : ObjectId
  user : ObjectId
  status : ParticipantStatus
deriving DecidableEq

/-- A membership event, as far as membership goes. -/
structure LogEntry where
  conversation : ObjectId
  user : ObjectId
  type : MembershipEventType
deriving DecidableEq

/-- Who belongs to which conversation, and how it came about. -/
structure Membership where
  conversations : List (ObjectId × ConversationType)
  members : List Member
  log : List LogEntry

/-- The record is an active one of the user in the conversation. -/
def Member.isActiveOf (conversation user : ObjectId) (x : Member) : Bool :=
  x.conversation = conversation && x.user = user && x.status = .active

/-- The entry is about the user in the conversation. -/
def LogEntry.isAbout (conversation user : ObjectId) (e : LogEntry) : Bool :=
  e.conversation = conversation && e.user = user

/-- The event makes the user a member. -/
def joins : MembershipEventType → Bool
  | .joined | .added => true
  | .left | .removed => false

/-- The last entry about a user in a conversation makes the user a member. -/
def isMemberByLog (log : List LogEntry) (conversation user : ObjectId) : Bool :=
  ((log.filter (LogEntry.isAbout conversation user)).getLast?).any fun e => joins e.type

namespace Membership

/-- The conversations there are. -/
def known (m : Membership) : List ObjectId := m.conversations.map Prod.fst

/-- The number of active records of a user in a conversation. -/
def activeRecords (m : Membership) (conversation user : ObjectId) : Nat :=
  m.members.countP (Member.isActiveOf conversation user)

/-- What holds of membership whatever the calls do. -/
structure WellFormed (m : Membership) : Prop where
  known_nodup : m.known.Nodup
  records_nodup : (m.members.map Member.record).Nodup
  member_known : ∀ x ∈ m.members, x.conversation ∈ m.known

/-- Records and log agree in every group, once the pending entries are written. -/
structure Inv (m : Membership) (pending : List LogEntry) : Prop where
  known_nodup : m.known.Nodup
  records_nodup : (m.members.map Member.record).Nodup
  member_known : ∀ x ∈ m.members, x.conversation ∈ m.known
  entry_known : ∀ e ∈ m.log ++ pending, e.conversation ∈ m.known
  agrees : ∀ c, (c, ConversationType.group) ∈ m.conversations → ∀ u,
    m.activeRecords c u = (isMemberByLog (m.log ++ pending) c u).toNat

/-! ## The log -/

/-- An entry about somebody else does not matter. -/
theorem isMemberByLog_append_of_not_about (log : List LogEntry) {entries : List LogEntry}
    {c u : ObjectId} (h : ∀ e ∈ entries, e.isAbout c u = false) :
    isMemberByLog (log ++ entries) c u = isMemberByLog log c u := by
  have hnone : entries.filter (LogEntry.isAbout c u) = [] := by
    rw [List.filter_eq_nil_iff]
    intro e he
    simp [h e he]
  rw [isMemberByLog, List.filter_append, hnone, List.append_nil, isMemberByLog]

/-- The last entry decides. -/
theorem isMemberByLog_concat (log : List LogEntry) {e : LogEntry} {c u : ObjectId}
    (h : e.isAbout c u = true) : isMemberByLog (log ++ [e]) c u = joins e.type := by
  simp [isMemberByLog, List.filter_append, h]

/-- After entries that all join, those they are about are members. -/
theorem isMemberByLog_append_joins (log : List LogEntry) {entries : List LogEntry}
    {c u : ObjectId} (hjoins : ∀ e ∈ entries, joins e.type = true) {e : LogEntry} (he : e ∈ entries)
    (habout : e.isAbout c u = true) : isMemberByLog (log ++ entries) c u = true := by
  have hmem : e ∈ entries.filter (LogEntry.isAbout c u) := List.mem_filter.mpr ⟨he, habout⟩
  cases hlast : (entries.filter (LogEntry.isAbout c u)).getLast? with
  | none =>
    rw [List.getLast?_eq_none_iff.mp hlast] at hmem
    exact absurd hmem List.not_mem_nil
  | some last =>
    have hjoin := hjoins last (List.mem_filter.mp (List.mem_of_getLast? hlast)).1
    rw [isMemberByLog, List.filter_append, List.getLast?_append, hlast]
    simpa using hjoin

/-! ## What the operations do -/

/-- A new conversation. -/
def addConversation (m : Membership) (c : ObjectId) (type : ConversationType) : Membership :=
  { m with conversations := m.conversations ++ [(c, type)] }

/-- New records. -/
def addMembers (m : Membership) (members : List Member) : Membership :=
  { m with members := m.members ++ members }

/-- The entries are written. -/
def write (m : Membership) (entries : List LogEntry) : Membership :=
  { m with log := m.log ++ entries }

/-- An active record of the user ends. -/
def endMember (m : Membership) (c u : ObjectId) (status : ParticipantStatus) : Membership :=
  { m with
    members := updateOne (Member.isActiveOf c u) (fun x => { x with status := status }) m.members }

/-- A record becomes active again. -/
def restore (m : Membership) (record : ObjectId) : Membership :=
  { m with
    members := updateOne (·.record = record) (fun x => { x with status := .active }) m.members }

variable {m : Membership} {pending : List LogEntry}

@[simp] theorem records_endMember (m : Membership) (c u : ObjectId) (status : ParticipantStatus) :
    (m.endMember c u status).members.map Member.record = m.members.map Member.record :=
  map_updateOne fun _ => rfl

@[simp] theorem records_restore (m : Membership) (record : ObjectId) :
    (m.restore record).members.map Member.record = m.members.map Member.record :=
  map_updateOne fun _ => rfl

theorem WellFormed.addConversation (hm : m.WellFormed) {c : ObjectId} (hnew : c ∉ m.known)
    (type : ConversationType) : (m.addConversation c type).WellFormed where
  known_nodup := by
    rw [known, Membership.addConversation, List.map_append, List.nodup_append]
    refine ⟨hm.known_nodup, List.nodup_singleton _, fun d hd e he heq => hnew ?_⟩
    obtain rfl : e = c := List.mem_singleton.mp he
    exact heq ▸ hd
  records_nodup := hm.records_nodup
  member_known := by
    intro x hx
    rw [known, Membership.addConversation, List.map_append]
    exact List.mem_append_left _ (hm.member_known x hx)

theorem WellFormed.addMembers (hm : m.WellFormed) {members : List Member}
    (hrecords : (members.map Member.record).Nodup)
    (hfresh : ∀ x ∈ members, x.record ∉ m.members.map Member.record)
    (hknown : ∀ x ∈ members, x.conversation ∈ m.known) : (m.addMembers members).WellFormed where
  known_nodup := hm.known_nodup
  records_nodup := by
    rw [Membership.addMembers, List.map_append, List.nodup_append]
    refine ⟨hm.records_nodup, hrecords, fun a ha b hb heq => ?_⟩
    obtain ⟨x, hx, rfl⟩ := List.mem_map.mp hb
    exact hfresh x hx (heq ▸ ha)
  member_known := by
    intro x hx
    cases List.mem_append.mp hx with
    | inl hold => exact hm.member_known x hold
    | inr hnew => exact hknown x hnew

/-- Changes of the records that keep their ids and their conversations. -/
theorem WellFormed.of_members (hm : m.WellFormed) {members : List Member}
    (hrecords : members.map Member.record = m.members.map Member.record)
    (hconversations : members.map Member.conversation = m.members.map Member.conversation) :
    WellFormed { m with members := members } where
  known_nodup := hm.known_nodup
  records_nodup := by
    rw [hrecords]
    exact hm.records_nodup
  member_known := by
    intro x hx
    have hmem : x.conversation ∈ m.members.map Member.conversation :=
      hconversations ▸ List.mem_map_of_mem hx
    obtain ⟨y, hy, heq⟩ := List.mem_map.mp hmem
    exact heq ▸ hm.member_known y hy

theorem WellFormed.endMember (hm : m.WellFormed) (c u : ObjectId) (status : ParticipantStatus) :
    (m.endMember c u status).WellFormed :=
  hm.of_members (records_endMember m c u status) (map_updateOne fun _ => rfl)

theorem WellFormed.restore (hm : m.WellFormed) (record : ObjectId) :
    (m.restore record).WellFormed :=
  hm.of_members (records_restore m record) (map_updateOne fun _ => rfl)

theorem Inv.wellFormed (hinv : m.Inv pending) : m.WellFormed :=
  ⟨hinv.known_nodup, hinv.records_nodup, hinv.member_known⟩

/-- A conversation without records has no members. -/
theorem activeRecords_eq_zero {c : ObjectId} (h : ∀ x ∈ m.members, x.conversation ≠ c)
    (u : ObjectId) : m.activeRecords c u = 0 := by
  rw [activeRecords, List.countP_eq_zero]
  intro x hx
  simp [Member.isActiveOf, h x hx]

/-- A conversation that nobody knew is empty. -/
theorem Inv.addConversation (hinv : m.Inv pending) {c : ObjectId} (hnew : c ∉ m.known)
    (type : ConversationType) : (m.addConversation c type).Inv pending where
  known_nodup := (hinv.wellFormed.addConversation hnew type).known_nodup
  records_nodup := hinv.records_nodup
  member_known := (hinv.wellFormed.addConversation hnew type).member_known
  entry_known := by
    intro e he
    rw [known, Membership.addConversation, List.map_append]
    exact List.mem_append_left _ (hinv.entry_known e he)
  agrees := by
    intro d hd u
    rcases List.mem_append.mp hd with hold | hc
    · exact hinv.agrees d hold u
    · obtain rfl : d = c := by simpa using congrArg Prod.fst (List.mem_singleton.mp hc)
      -- nothing is about a conversation that was not known
      have hmembers : ∀ x ∈ m.members, x.conversation ≠ d := fun x hx heq =>
        hnew (heq ▸ hinv.member_known x hx)
      have hentries : ∀ e ∈ m.log ++ pending, e.isAbout d u = false := by
        intro e he
        have hne : e.conversation ≠ d := fun heq => hnew (heq ▸ hinv.entry_known e he)
        simp [LogEntry.isAbout, hne]
      have hlog := isMemberByLog_append_of_not_about [] hentries
      rw [List.nil_append] at hlog
      have hzero : (m.addConversation d type).activeRecords d u = 0 :=
        activeRecords_eq_zero hmembers u
      rw [hzero]
      show 0 = (isMemberByLog (m.log ++ pending) d u).toNat
      rw [hlog]
      rfl

/-- Writing the pending entries. -/
theorem Inv.write (hinv : m.Inv pending) : (m.write pending).Inv [] where
  known_nodup := hinv.known_nodup
  records_nodup := hinv.records_nodup
  member_known := hinv.member_known
  entry_known := by
    rw [List.append_nil]
    exact hinv.entry_known
  agrees := by
    rw [List.append_nil]
    exact hinv.agrees

/-- New records for users who have none that is active, with entries that say so. -/
theorem Inv.addMembers (hinv : m.Inv []) {c : ObjectId} (hknown : c ∈ m.known)
    {members : List Member} {entries : List LogEntry}
    (hrecords : (members.map Member.record).Nodup)
    (hfresh : ∀ x ∈ members, x.record ∉ m.members.map Member.record)
    (hmembers : ∀ x ∈ members, x.conversation = c ∧ x.status = .active)
    (husers : (members.map Member.user).Nodup)
    (hinactive : ∀ x ∈ members, m.activeRecords c x.user = 0)
    (hjoins : ∀ e ∈ entries, e.conversation = c ∧ joins e.type = true)
    (hentries : entries.map LogEntry.user = members.map Member.user) :
    (m.addMembers members).Inv entries where
  known_nodup := hinv.known_nodup
  records_nodup :=
    (hinv.wellFormed.addMembers hrecords hfresh fun x hx => (hmembers x hx).1 ▸ hknown).records_nodup
  member_known :=
    (hinv.wellFormed.addMembers hrecords hfresh fun x hx => (hmembers x hx).1 ▸ hknown).member_known
  entry_known := by
    intro e he
    rcases List.mem_append.mp he with hold | hnew
    · exact hinv.entry_known e (List.mem_append_left _ hold)
    · rw [(hjoins e hnew).1]
      exact hknown
  agrees := by
    intro d hd u
    have hold := hinv.agrees d hd u
    rw [List.append_nil] at hold
    have hcount : (m.addMembers members).activeRecords d u =
        m.activeRecords d u + members.countP (Member.isActiveOf d u) := List.countP_append
    rw [hcount]
    show _ = (isMemberByLog (m.log ++ entries) d u).toNat
    by_cases habout : d = c ∧ u ∈ members.map Member.user
    · obtain ⟨rfl, hu⟩ := habout
      obtain ⟨x, hx, rfl⟩ := List.mem_map.mp hu
      -- the user has the one new record, and an entry
      have hone : members.countP (Member.isActiveOf d x.user) = 1 := by
        have hsame : members.countP (Member.isActiveOf d x.user) =
            (members.map Member.user).count x.user := by
          rw [List.count, List.countP_map]
          apply List.countP_congr
          intro y hy
          simp [Member.isActiveOf, hmembers y hy]
        rw [hsame, List.count_eq_one_of_mem husers hu]
      obtain ⟨e, he, heu⟩ := List.mem_map.mp (hentries ▸ hu)
      have hlog := isMemberByLog_append_joins m.log (fun e he => (hjoins e he).2) he
        (c := d) (u := x.user) (by simp [LogEntry.isAbout, (hjoins e he).1, heu])
      rw [hinactive x hx, hone, hlog]
      rfl
    · -- the new records and entries are about others
      have hnone : members.countP (Member.isActiveOf d u) = 0 := by
        rw [List.countP_eq_zero]
        intro x hx hactive
        simp only [Member.isActiveOf, Bool.and_eq_true, decide_eq_true_eq] at hactive
        apply habout
        rw [← hactive.1.1, ← hactive.1.2]
        exact ⟨(hmembers x hx).1, List.mem_map_of_mem hx⟩
      have hother : ∀ e ∈ entries, e.isAbout d u = false := by
        intro e he
        rw [← Bool.not_eq_true]
        intro he'
        simp only [LogEntry.isAbout, Bool.and_eq_true, decide_eq_true_eq] at he'
        apply habout
        rw [← he'.1, ← he'.2, ← hentries]
        exact ⟨(hjoins e he).1, List.mem_map_of_mem he⟩
      rw [hnone, isMemberByLog_append_of_not_about m.log hother, hold, Nat.add_zero]

/-- The end of a membership, with an entry that says so. -/
theorem Inv.endMember (hinv : m.Inv []) {c : ObjectId} (hknown : c ∈ m.known) {u : ObjectId}
    {status : ParticipantStatus} (hstatus : status ≠ .active) {type : MembershipEventType}
    (htype : joins type = false) : (m.endMember c u status).Inv [⟨c, u, type⟩] where
  known_nodup := hinv.known_nodup
  records_nodup := (hinv.wellFormed.endMember c u status).records_nodup
  member_known := (hinv.wellFormed.endMember c u status).member_known
  entry_known := by
    intro e he
    rcases List.mem_append.mp he with hold | hnew
    · exact hinv.entry_known e (List.mem_append_left _ hold)
    · obtain rfl := List.mem_singleton.mp hnew
      exact hknown
  agrees := by
    intro d hd v
    have hold := hinv.agrees d hd v
    rw [List.append_nil] at hold
    show (updateOne _ _ m.members).countP (Member.isActiveOf d v) =
      (isMemberByLog (m.log ++ [⟨c, u, type⟩]) d v).toNat
    -- the member who goes, and everybody else
    by_cases habout : d = c ∧ v = u
    · obtain ⟨rfl, rfl⟩ := habout
      have hends : ∀ x : Member, x.isActiveOf d v = true →
          Member.isActiveOf d v { x with status := status } = false := by
        intro x _
        simp [Member.isActiveOf, hstatus]
      have hle : m.activeRecords d v ≤ 1 := hold ▸ Bool.toNat_le _
      have habout : LogEntry.isAbout d v ⟨d, v, type⟩ = true := by simp [LogEntry.isAbout]
      have hlog := isMemberByLog_concat m.log habout
      rw [countP_updateOne_self hends, hlog, htype]
      show m.activeRecords d v - 1 = 0
      omega
    · have hother : ∀ x ∈ m.members, x.isActiveOf c u = true →
          Member.isActiveOf d v { x with status := status } = x.isActiveOf d v := by
        intro x _ hx
        simp only [Member.isActiveOf, Bool.and_eq_true, decide_eq_true_eq] at hx
        have hne : ¬ (x.conversation = d ∧ x.user = v) := by
          rw [hx.1.1, hx.1.2]
          exact fun h => habout ⟨h.1.symm, h.2.symm⟩
        by_cases hconv : x.conversation = d
        · have huser : x.user ≠ v := fun h => hne ⟨hconv, h⟩
          simp [Member.isActiveOf, huser]
        · simp [Member.isActiveOf, hconv]
      have hentries : ∀ e ∈ [(⟨c, u, type⟩ : LogEntry)], e.isAbout d v = false := by
        intro e he
        obtain rfl := List.mem_singleton.mp he
        rw [← Bool.not_eq_true]
        intro h
        simp only [LogEntry.isAbout, Bool.and_eq_true, decide_eq_true_eq] at h
        exact habout ⟨h.1.symm, h.2.symm⟩
      have hlog := isMemberByLog_append_of_not_about m.log hentries
      rw [countP_updateOne hother, hlog]
      exact hold

/-- A record of a direct conversation becomes active again: no group has to do with it. -/
theorem Inv.restore (hinv : m.Inv pending) {record : ObjectId}
    (hdirect : ∃ x ∈ m.members, x.record = record ∧
      (x.conversation, ConversationType.direct) ∈ m.conversations) :
    (m.restore record).Inv pending where
  known_nodup := hinv.known_nodup
  records_nodup := (hinv.wellFormed.restore record).records_nodup
  member_known := (hinv.wellFormed.restore record).member_known
  entry_known := hinv.entry_known
  agrees := by
    intro d hd u
    obtain ⟨x, hx, hrecord, hxdirect⟩ := hdirect
    have hold := hinv.agrees d hd u
    show (updateOne _ _ m.members).countP (Member.isActiveOf d u) =
      (isMemberByLog (m.log ++ pending) d u).toNat
    rw [← hold]
    apply countP_updateOne
    intro y hy hyrecord
    -- the record is the one of the direct conversation, which is no group
    obtain rfl : y = x := by
      apply List.inj_on_of_nodup_map hinv.records_nodup hy hx
      rw [hrecord]
      exact of_decide_eq_true hyrecord
    have hne : y.conversation ≠ d := by
      rintro rfl
      have hsame := List.inj_on_of_nodup_map hinv.known_nodup hd hxdirect rfl
      exact absurd (congrArg Prod.snd hsame) nofun
    simp [Member.isActiveOf, hne]

end Membership

end ChatSC.Spec
