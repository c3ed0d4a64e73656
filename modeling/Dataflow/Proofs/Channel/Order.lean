/-
The messages of a broker as one list in the order of their publication.

A broker keeps a queue for every channel.  `Broker.Holds b l` says that these
queues are the parts of one list `l`: the numbers of `l` increase, so `l` is in
the order of publication, and the queue of a channel is what `l` has on it.
Accepting a message adds it at the end of the list, and taking one removes the
first that the pattern selects, whatever the order in which the channels are
listed (`Holds.takeFrom?_eq`).
-/
import Dataflow.Channel.Broker
import Mathlib.Data.List.Basic

namespace Dataflow
namespace Broker

/-- The queues of a broker are the parts of `l`, which is in the order of publication. -/
structure Holds (b : Broker) (l : List Queued) : Prop where
  increasing : l.Pairwise (fun x y => x.sequence < y.sequence)
  below : ∀ q ∈ l, q.sequence < b.nextSequence
  queue_eq : ∀ channel, b.queue channel = l.filter (fun q => q.message.channel = channel)
  nonempty : ∀ channel, b.channels.get? channel ≠ some []
  unacked : ∀ q ∈ l, q.message.awaitsAck = true

theorem holds_empty : Holds {} [] where
  increasing := List.Pairwise.nil
  below := by simp
  queue_eq := fun _ => rfl
  nonempty := by simp
  unacked := by simp

/-! ## The oldest front -/

/-- A front of the least number, if there is a front at all. -/
theorem foldl_oldest (fronts : List (String × Nat)) :
    ∀ best : String × Nat, ∃ f, fronts.foldl
        (fun best? front =>
          match best? with
          | none => some front
          | some best => if front.2 < best.2 then some front else some best) (some best) = some f ∧
      (f = best ∨ f ∈ fronts) ∧ f.2 ≤ best.2 ∧ ∀ g ∈ fronts, f.2 ≤ g.2 := by
  induction fronts with
  | nil => exact fun best => ⟨best, rfl, .inl rfl, Nat.le_refl _, by simp⟩
  | cons g rest ih =>
    intro best
    by_cases hlt : g.2 < best.2
    · obtain ⟨f, hf, hmem, hle, hall⟩ := ih g
      refine ⟨f, by simpa [hlt] using hf, ?_, by omega, ?_⟩
      · rcases hmem with rfl | hmem
        · exact .inr List.mem_cons_self
        · exact .inr (List.mem_cons_of_mem _ hmem)
      · intro x hx
        rcases List.mem_cons.mp hx with rfl | hx
        · exact hle
        · exact hall x hx
    · obtain ⟨f, hf, hmem, hle, hall⟩ := ih best
      refine ⟨f, by simpa [hlt] using hf, ?_, hle, ?_⟩
      · rcases hmem with rfl | hmem
        · exact .inl rfl
        · exact .inr (List.mem_cons_of_mem _ hmem)
      · intro x hx
        rcases List.mem_cons.mp hx with rfl | hx
        · omega
        · exact hall x hx

theorem oldest?_eq_some {fronts : List (String × Nat)} (h : fronts ≠ []) :
    ∃ f, oldest? fronts = some f ∧ f ∈ fronts ∧ ∀ g ∈ fronts, f.2 ≤ g.2 := by
  cases fronts with
  | nil => exact absurd rfl h
  | cons g rest =>
    obtain ⟨f, hf, hmem, hle, hall⟩ := foldl_oldest rest g
    refine ⟨f, hf, ?_, ?_⟩
    · rcases hmem with rfl | hmem
      · exact List.mem_cons_self
      · exact List.mem_cons_of_mem _ hmem
    · intro x hx
      rcases List.mem_cons.mp hx with rfl | hx
      · exact hle
      · exact hall x hx

theorem queue_eq_of_get? {b : Broker} {channel : String} {queue : List Queued}
    (h : b.channels.get? channel = some queue) : b.queue channel = queue := by
  rw [Broker.queue, h]
  rfl

/-- The fronts are the oldest messages of the selected channels, in whatever order these are
listed. -/
theorem mem_fronts_iff {b : Broker} {table : List (String × List Queued)}
    (htable : table.Perm b.channels.entries) {pattern : ChannelPattern} {f : String × Nat} :
    f ∈ fronts pattern table ↔
      pattern.selects f.1 = true ∧ ∃ q, (b.queue f.1).head? = some q ∧ q.sequence = f.2 := by
  have hmem : ∀ channel queue, (channel, queue) ∈ table ↔ b.channels.get? channel = some queue :=
    fun channel queue => htable.mem_iff.trans b.channels.mem_entries_iff
  unfold fronts
  rw [List.mem_filterMap]
  constructor
  · rintro ⟨⟨channel, queue⟩, hentry, hf⟩
    by_cases hsel : pattern.selects channel = true
    · simp only [hsel, if_true, Option.map_eq_some_iff] at hf
      obtain ⟨q, hq, rfl⟩ := hf
      rw [queue_eq_of_get? ((hmem channel queue).mp hentry)]
      exact ⟨hsel, q, hq, rfl⟩
    · simp [hsel] at hf
  · rintro ⟨hsel, q, hq, hseq⟩
    cases hget : b.channels.get? f.1 with
    | none =>
      rw [Broker.queue, hget] at hq
      simp at hq
    | some queue =>
      refine ⟨(f.1, queue), (hmem f.1 queue).mpr hget, ?_⟩
      rw [queue_eq_of_get? hget] at hq
      simp [hsel, hq, hseq]

/-! ## Accepting a message -/

theorem queue_insert (b : Broker) (channel other : String) (queue : List Queued) :
    Broker.queue { b with channels := b.channels.insert channel queue } other =
      if channel = other then queue else b.queue other := by
  simp only [Broker.queue, KeyMap.get?_insert]
  split <;> rfl

theorem queue_erase (b : Broker) (channel other : String) :
    Broker.queue { b with channels := b.channels.erase channel } other =
      if channel = other then [] else b.queue other := by
  simp only [Broker.queue, KeyMap.get?_erase]
  split <;> rfl

/-- The entry that an accepted message becomes. -/
def queued (b : Broker) (m : Message) : Queued :=
  { sequence := b.nextSequence, message := { m with awaitsAck := true } }

theorem publish_eq_ok_iff {b b' : Broker} {m : Message} :
    b.publish m = .ok b' ↔
      (b.isConnected = true ∧ Channel.isName m.channel = true) ∧ b' = b.accept m := by
  unfold publish whileConnected
  cases b.isConnected <;> cases Channel.isName m.channel <;> simp [eq_comm]

theorem Holds.accept {b : Broker} {l : List Queued} (h : b.Holds l) (m : Message) :
    (b.accept m).Holds (l ++ [b.queued m]) where
  increasing := by
    refine List.pairwise_append.mpr ⟨h.increasing, List.pairwise_singleton _ _, ?_⟩
    intro x hx y hy
    rw [List.mem_singleton.mp hy]
    exact h.below x hx
  below := by
    intro q hq
    show q.sequence < b.nextSequence + 1
    rcases List.mem_append.mp hq with hq | hq
    · exact Nat.lt_succ_of_lt (h.below q hq)
    · rw [List.mem_singleton.mp hq]
      exact Nat.lt_succ_self _
  queue_eq := by
    intro channel
    rw [List.filter_append, ← h.queue_eq]
    refine (queue_insert b m.channel channel _).trans ?_
    by_cases hc : m.channel = channel
    · subst hc
      simp [queued]
    · simp [queued, hc]
  nonempty := by
    intro channel
    show (b.channels.insert _ _).get? channel ≠ some []
    rw [KeyMap.get?_insert]
    split
    · simp
    · exact h.nonempty channel
  unacked := by
    intro q hq
    rcases List.mem_append.mp hq with hq | hq
    · exact h.unacked q hq
    · rw [List.mem_singleton.mp hq]
      rfl

/-- What the list describes are the queues and the next number; nothing else of a broker matters. -/
theorem Holds.congr {b b' : Broker} {l : List Queued} (h : b.Holds l)
    (hchannels : b'.channels = b.channels) (hnext : b'.nextSequence = b.nextSequence) :
    b'.Holds l where
  increasing := h.increasing
  below := by rw [hnext]; exact h.below
  queue_eq := by
    intro channel
    rw [← h.queue_eq, Broker.queue, hchannels]
    rfl
  nonempty := by rw [hchannels]; exact h.nonempty
  unacked := h.unacked

theorem Holds.connect {b : Broker} {l : List Queued} (h : b.Holds l) : b.connect.Holds l :=
  h.congr rfl rfl

theorem Holds.close {b : Broker} {l : List Queued} (h : b.Holds l) : b.close.Holds l :=
  h.congr rfl rfl

theorem Holds.acknowledge {b : Broker} {l : List Queued} (h : b.Holds l) (m : Message) :
    (b.acknowledge m).2.Holds l := by
  unfold Broker.acknowledge
  split
  · exact h.congr rfl rfl
  · exact h

/-! ## Taking a message -/

@[simp] theorem dropFront_connections (b : Broker) (channel : String) :
    (b.dropFront channel).connections = b.connections := by
  unfold dropFront
  split <;> rfl

@[simp] theorem dropFront_nextSequence (b : Broker) (channel : String) :
    (b.dropFront channel).nextSequence = b.nextSequence := by
  unfold dropFront
  split <;> rfl

@[simp] theorem dropFront_acknowledged (b : Broker) (channel : String) :
    (b.dropFront channel).acknowledged = b.acknowledged := by
  unfold dropFront
  split <;> rfl

/-- Dropping the front of a channel removes the first message of the list on that channel. -/
theorem Holds.dropFront {b : Broker} {before after : List Queued} {q : Queued}
    (h : b.Holds (before ++ q :: after))
    (hbefore : ∀ x ∈ before, x.message.channel ≠ q.message.channel) :
    (b.dropFront q.message.channel).Holds (before ++ after) := by
  have hqueue : b.queue q.message.channel =
      q :: after.filter (fun x => x.message.channel = q.message.channel) := by
    rw [h.queue_eq, List.filter_append, List.filter_eq_nil_iff.mpr (by simpa using hbefore)]
    simp
  have hchannel : ∀ channel, (b.dropFront q.message.channel).queue channel =
      if q.message.channel = channel then
        after.filter (fun x => x.message.channel = q.message.channel) else b.queue channel := by
    intro channel
    unfold Broker.dropFront
    rw [hqueue]
    cases hrest : after.filter (fun x => x.message.channel = q.message.channel) with
    | nil => exact queue_erase b _ channel
    | cons next rest => exact queue_insert b _ channel _
  have hsub : (before ++ after).Sublist (before ++ q :: after) :=
    (List.Sublist.refl before).append (List.sublist_cons_self q after)
  constructor
  · exact h.increasing.sublist hsub
  · intro x hx
    rw [dropFront_nextSequence]
    exact h.below x (hsub.subset hx)
  · intro channel
    rw [hchannel, List.filter_append]
    by_cases hc : q.message.channel = channel
    · subst hc
      have hnil : before.filter (fun x => x.message.channel = q.message.channel) = [] :=
        List.filter_eq_nil_iff.mpr (by simpa using hbefore)
      rw [if_pos rfl, hnil, List.nil_append]
    · rw [if_neg hc, h.queue_eq, List.filter_append, List.filter_cons]
      simp [hc]
  · intro channel
    unfold Broker.dropFront
    rw [hqueue]
    cases hrest : after.filter (fun x => x.message.channel = q.message.channel) with
    | nil =>
      show (b.channels.erase _).get? channel ≠ some []
      rw [KeyMap.get?_erase]
      split
      · simp
      · exact h.nonempty channel
    | cons next rest =>
      show (b.channels.insert _ _).get? channel ≠ some []
      rw [KeyMap.get?_insert]
      split
      · simp
      · exact h.nonempty channel
  · exact fun x hx => h.unacked x (hsub.subset hx)

variable {b : Broker} {l : List Queued} {table : List (String × List Queued)}

/-- Nothing is taken when the pattern selects nothing. -/
theorem Holds.takeFrom?_eq_none {pattern : ChannelPattern} (h : b.Holds l)
    (htable : table.Perm b.channels.entries)
    (hnone : ∀ x ∈ l, pattern.selects x.message.channel = false) :
    b.takeFrom? table pattern = none := by
  have hfronts : fronts pattern table = [] := by
    refine List.eq_nil_iff_forall_not_mem.mpr fun f hf => ?_
    obtain ⟨hsel, q, hq, -⟩ := (mem_fronts_iff htable).mp hf
    have hmem : q ∈ b.queue f.1 := List.mem_of_head? hq
    rw [h.queue_eq, List.mem_filter] at hmem
    have hchannel : q.message.channel = f.1 := by simpa using hmem.2
    rw [← hchannel, hnone q hmem.1] at hsel
    cases hsel
  simp [takeFrom?, hfronts, oldest?]

/-- Of the messages that the pattern selects, the first of the list is taken. -/
theorem takeFrom?_of_split {pattern : ChannelPattern} {before after : List Queued} {q : Queued}
    (h : b.Holds (before ++ q :: after)) (htable : table.Perm b.channels.entries)
    (hbefore : ∀ x ∈ before, pattern.selects x.message.channel = false)
    (hq : pattern.selects q.message.channel = true) :
    b.takeFrom? table pattern = some (q.message, b.dropFront q.message.channel) ∧
      (b.dropFront q.message.channel).Holds (before ++ after) := by
  have hchannels : ∀ x ∈ before, x.message.channel ≠ q.message.channel := by
    intro x hx hc
    have := hbefore x hx
    rw [hc, hq] at this
    cases this
  have hhead : (b.queue q.message.channel).head? = some q := by
    rw [h.queue_eq, List.filter_append, List.filter_eq_nil_iff.mpr (by simpa using hchannels)]
    simp
  have hmine : (q.message.channel, q.sequence) ∈ fronts pattern table :=
    (mem_fronts_iff htable).mpr ⟨hq, q, hhead, rfl⟩
  obtain ⟨f, hf, hfmem, hmin⟩ := oldest?_eq_some (List.ne_nil_of_mem hmine)
  -- The front that was found belongs to a message of the list that is selected, so it does not
  -- stand before `q`; and its number is not greater than that of `q`.
  have hfront : f.1 = q.message.channel := by
    obtain ⟨hsel, x, hx, hseq⟩ := (mem_fronts_iff htable).mp hfmem
    have hxq : x ∈ b.queue f.1 := List.mem_of_head? hx
    rw [h.queue_eq, List.mem_filter] at hxq
    have hchannel : x.message.channel = f.1 := by simpa using hxq.2
    have hle : x.sequence ≤ q.sequence := hseq ▸ hmin _ hmine
    rcases List.mem_append.mp hxq.1 with hxb | hxa
    · have := hbefore x hxb
      rw [hchannel, hsel] at this
      cases this
    · rcases List.mem_cons.mp hxa with rfl | hxa
      · exact hchannel.symm
      · have hpair := (List.pairwise_append.mp h.increasing).2.1
        have := (List.pairwise_cons.mp hpair).1 x hxa
        omega
  refine ⟨?_, h.dropFront hchannels⟩
  simp [takeFrom?, hf, hfront, hhead]

/-- Taking from the queues is taking from the list, in whatever order the channels are listed. -/
theorem Holds.takeFrom?_eq (h : b.Holds l) (htable : table.Perm b.channels.entries)
    (pattern : ChannelPattern) :
    (∃ q b', l.find? (fun x => pattern.selects x.message.channel) = some q ∧
        b.takeFrom? table pattern = some (q.message, b') ∧
        b'.connections = b.connections ∧ b'.nextSequence = b.nextSequence ∧
        b'.acknowledged = b.acknowledged ∧
        b'.Holds (l.eraseP (fun x => pattern.selects x.message.channel))) ∨
      (l.find? (fun x => pattern.selects x.message.channel) = none ∧
        b.takeFrom? table pattern = none) := by
  cases hfind : l.find? (fun x => pattern.selects x.message.channel) with
  | none =>
    refine .inr ⟨rfl, h.takeFrom?_eq_none htable ?_⟩
    simpa using hfind
  | some q =>
    obtain ⟨hq, before, after, rfl, hbefore⟩ := List.find?_eq_some_iff_append.mp hfind
    have hbefore : ∀ x ∈ before, pattern.selects x.message.channel = false := by
      simpa using hbefore
    obtain ⟨htake, hholds⟩ := takeFrom?_of_split h htable hbefore hq
    refine .inl ⟨q, _, rfl, htake, dropFront_connections b _, dropFront_nextSequence b _,
      dropFront_acknowledged b _, ?_⟩
    rw [List.eraseP_append_right _ (by simpa using hbefore)]
    simpa [List.eraseP_cons_of_pos, hq] using hholds

/-- `takeFrom?_eq` for the order in which the channel table itself lists them. -/
theorem Holds.take?_eq (h : b.Holds l) (pattern : ChannelPattern) :
    (∃ q b', l.find? (fun x => pattern.selects x.message.channel) = some q ∧
        b.take? pattern = some (q.message, b') ∧
        b'.connections = b.connections ∧ b'.nextSequence = b.nextSequence ∧
        b'.acknowledged = b.acknowledged ∧
        b'.Holds (l.eraseP (fun x => pattern.selects x.message.channel))) ∨
      (l.find? (fun x => pattern.selects x.message.channel) = none ∧ b.take? pattern = none) :=
  h.takeFrom?_eq (List.Perm.refl _) pattern

/-! ## All messages at once -/

/-- The queued messages channel by channel. -/
def waiting (b : Broker) : List Queued := b.channels.entries.flatMap (·.2)

/-- Sorting a list into its parts by key loses nothing and adds nothing. -/
theorem flatMap_filter_perm {α : Type} (key : α → String) :
    ∀ (keys : List String) (l : List α), keys.Nodup → (∀ x ∈ l, key x ∈ keys) →
      (keys.flatMap fun k => l.filter (fun x => key x = k)).Perm l := by
  intro keys
  induction keys with
  | nil =>
    intro l _ hall
    rw [List.eq_nil_iff_forall_not_mem.mpr fun x hx => List.not_mem_nil (hall x hx)]
    exact List.Perm.refl _
  | cons k ks ih =>
    intro l hnodup hall
    obtain ⟨hk, hks⟩ := List.nodup_cons.mp hnodup
    have hparts : (ks.flatMap fun k' => l.filter (fun x => key x = k')) =
        ks.flatMap fun k' =>
          (l.filter (fun x => !decide (key x = k))).filter (fun x => key x = k') := by
      refine List.flatMap_congr fun k' hk' => ?_
      rw [List.filter_filter]
      refine List.filter_congr fun x _ => ?_
      by_cases hx : key x = k'
      · have hne : k' ≠ k := fun h => hk (h ▸ hk')
        simp [hx, hne]
      · simp [hx]
    rw [List.flatMap_cons, hparts]
    refine ((List.Perm.refl _).append (ih _ hks ?_)).trans
      (List.filter_append_perm (fun x => decide (key x = k)) l)
    intro x hx
    obtain ⟨hx, hne⟩ := List.mem_filter.mp hx
    rcases List.mem_cons.mp (hall x hx) with h | h
    · simp [h] at hne
    · exact h

theorem Holds.waiting_perm (h : b.Holds l) : b.waiting.Perm l := by
  have hentries : b.waiting =
      b.channels.keys.flatMap fun k => l.filter (fun q => q.message.channel = k) := by
    rw [waiting, KeyMap.keys, List.flatMap_map]
    refine List.flatMap_congr fun e he => ?_
    rw [← h.queue_eq, queue_eq_of_get? (b.channels.mem_entries_iff.mp he)]
  rw [hentries]
  refine flatMap_filter_perm (fun q => q.message.channel) _ l b.channels.nodup_keys ?_
  intro q hq
  cases hget : b.channels.get? q.message.channel with
  | none =>
    have hmem : q ∈ b.queue q.message.channel := by
      rw [h.queue_eq]
      simpa using hq
    rw [Broker.queue, hget] at hmem
    cases hmem
  | some queue => exact List.mem_map.mpr ⟨_, b.channels.mem_entries_iff.mpr hget, rfl⟩

theorem Holds.size_eq (h : b.Holds l) : b.size = l.length := h.waiting_perm.length_eq

theorem filter_of_find?_eq_some {α : Type} {p : α → Bool} {l : List α} {x : α}
    (h : l.find? p = some x) : l.filter p = x :: (l.eraseP p).filter p := by
  obtain ⟨hx, before, after, rfl, hbefore⟩ := List.find?_eq_some_iff_append.mp h
  have hnone : ∀ y ∈ before, ¬ p y = true := by simpa using hbefore
  rw [List.eraseP_append_right _ hnone, List.eraseP_cons_of_pos hx, List.filter_append,
    List.filter_append, List.filter_cons_of_pos hx, List.filter_eq_nil_iff.mpr hnone]
  rfl

theorem filter_not_eraseP {α : Type} (p : α → Bool) (l : List α) :
    (l.eraseP p).filter (fun x => !p x) = l.filter (fun x => !p x) := by
  induction l with
  | nil => rfl
  | cons x rest ih =>
    by_cases hx : p x = true
    · simp [hx]
    · simp [hx, ih]

/-- Enough steps take all that a pattern selects, in the order of publication. -/
theorem Holds.take_eq {s : Subscription} (hopen : s.closed = false) :
    ∀ (count : Nat) {b : Broker} {l : List Queued}, b.Holds l →
      (l.filter (fun x => s.pattern.selects x.message.channel)).length ≤ count →
        (s.take count b).1 =
            (l.filter (fun x => s.pattern.selects x.message.channel)).map (·.message) ∧
          (s.take count b).2.Holds (l.filter (fun x => !s.pattern.selects x.message.channel)) := by
  intro count
  induction count with
  | zero =>
    intro b l h hcount
    have hnil : l.filter (fun x => s.pattern.selects x.message.channel) = [] :=
      List.length_eq_zero_iff.mp (Nat.le_zero.mp hcount)
    have hall : l.filter (fun x => !s.pattern.selects x.message.channel) = l := by
      refine List.filter_eq_self.mpr fun x hx => ?_
      simpa using List.filter_eq_nil_iff.mp hnil x hx
    rw [hnil, hall]
    exact ⟨rfl, h⟩
  | succ count ih =>
    intro b l h hcount
    have hnext : s.next? b = b.take? s.pattern := by
      simp [Subscription.next?, Subscription.nextFrom?, hopen, Broker.take?]
    rcases h.take?_eq s.pattern with ⟨q, b', hfind, htake, -, -, -, hb'⟩ | ⟨hfind, htake⟩
    · have hfilter := filter_of_find?_eq_some hfind
      rw [hfilter, List.length_cons] at hcount
      obtain ⟨hmessages, hholds⟩ := ih hb' (Nat.le_of_succ_le_succ hcount)
      rw [filter_not_eraseP] at hholds
      rw [Subscription.take, hnext, htake, hfilter]
      exact ⟨congrArg (q.message :: ·) hmessages, hholds⟩
    · have hnone : ∀ x ∈ l, ¬ s.pattern.selects x.message.channel = true := by simpa using hfind
      have hall : l.filter (fun x => !s.pattern.selects x.message.channel) = l :=
        List.filter_eq_self.mpr fun x hx => by simpa using hnone x hx
      rw [Subscription.take, hnext, htake, List.filter_eq_nil_iff.mpr hnone, hall]
      exact ⟨rfl, h⟩

/-- Draining an open subscription hands out all that its pattern selects, in the order of
publication, and leaves everything else. -/
theorem Holds.drain_eq {s : Subscription} (hopen : s.closed = false) (h : b.Holds l) :
    (s.drain b).1 = (l.filter (fun x => s.pattern.selects x.message.channel)).map (·.message) ∧
      (s.drain b).2.Holds (l.filter (fun x => !s.pattern.selects x.message.channel)) :=
  Holds.take_eq hopen b.size h (h.size_eq ▸ List.length_filter_le _ _)

end Broker
end Dataflow
