/-
Where the messages of a job go.

The two channels of a job and the two patterns are made for each other.  A text that
has no point is one segment, and it can be put in the place of the star; whatever it
is, the last segments of the channels and the patterns keep requests and results
apart.  Hence what is published on the channel of a job reaches subscriptions of
workers only, and what is published on its second channel reaches orchestrators only.
-/
import Dataflow.Proofs.Channel.Order
import Dataflow.Proofs.Job.Name

namespace Dataflow

/-! ## Deliveries -/

namespace Broker

theorem subscribe_of_parse {b : Broker} {text : String} {p : ChannelPattern}
    (hconnected : b.isConnected = true) (hparse : ChannelPattern.parse text = .ok p) :
    b.subscribe text = .ok { pattern := p } := by
  rw [subscribe, whileConnected, if_pos hconnected, hparse]
  rfl

/-- What a subscription hands out are the messages on channels that its pattern selects. -/
theorem Holds.mem_drain_iff {b : Broker} {queued : List Queued} (h : b.Holds queued)
    {p : ChannelPattern} {m : Message} :
    m ∈ (Subscription.drain { pattern := p } b).1 ↔
      m ∈ queued.map (·.message) ∧ p.selects m.channel = true := by
  have hdrain := (h.drain_eq (s := { pattern := p }) rfl).1
  rw [hdrain, List.mem_map, List.mem_map]
  constructor
  · intro ⟨q, hq, hm⟩
    have hfilter := List.mem_filter.mp hq
    exact ⟨⟨q, hfilter.1, hm⟩, hm ▸ hfilter.2⟩
  · intro ⟨⟨q, hq, hm⟩, hselects⟩
    exact ⟨q, List.mem_filter.mpr ⟨hq, hm.symm ▸ hselects⟩, hm⟩

/-- A message that is published on a channel with a name reaches the subscriptions whose patterns
select the channel, and no others. -/
theorem Holds.reaches {b : Broker} {queued : List Queued} (h : b.Holds queued)
    (hconnected : b.isConnected = true) {m : Message} (hname : Channel.isName m.channel = true)
    {p p' : ChannelPattern} (hselects : p.selects m.channel = true)
    (hignores : p'.selects m.channel = false) :
    ∃ b', b.publish m = .ok b' ∧
      { m with awaitsAck := true } ∈ (Subscription.drain { pattern := p } b').1 ∧
      ∀ other ∈ (Subscription.drain { pattern := p' } b').1, other.channel ≠ m.channel := by
  refine ⟨b.accept m, publish_eq_ok_iff.mpr ⟨⟨hconnected, hname⟩, rfl⟩, ?_, ?_⟩
  · refine (h.accept m).mem_drain_iff.mpr ⟨?_, hselects⟩
    rw [List.map_append]
    exact List.mem_append_right _ List.mem_cons_self
  · intro other hother heq
    have hselected := ((h.accept m).mem_drain_iff.mp hother).2
    rw [heq, hignores] at hselected
    cases hselected

end Broker

/-! ## Channels and patterns -/

namespace Job

theorem publish_iff_segments {b : Broker} (hconnected : b.isConnected = true) {m : Message}
    {id : String} (hname : Channel.isName m.channel = Channel.isName id) :
    (∃ b', b.publish m = .ok b') ↔ [] ∉ id.toList.splitOn '.' := by
  rw [← Channel.isName_iff]
  constructor
  · intro ⟨b', hpublish⟩
    exact hname.symm.trans (Broker.publish_eq_ok_iff.mp hpublish).1.2
  · intro h
    exact ⟨b.accept m, Broker.publish_eq_ok_iff.mpr ⟨⟨hconnected, hname.trans h⟩, rfl⟩⟩

/-- Whatever text stands for an identifier: the broker takes messages on the two channels if none
of its segments is empty; a pattern selects the channel of its kind if the text has no point, and
never the channel of the other kind; no name is selected by both patterns; and different texts
have different channels.  So a request on the channel of a text that could identify a job reaches
workers and no orchestrator, and a result the other way round. -/
theorem channels_fit_patterns :
    ChannelPattern.parse "jobs.*.cfg" = .ok requests ∧
    ChannelPattern.parse "jobs.*.status" = .ok reports ∧
    (∀ (id : String) (b : Broker) (m : Message), b.isConnected = true →
      m.channel = channel id ∨ m.channel = statusChannel id →
        ((∃ b', b.publish m = .ok b') ↔ [] ∉ id.toList.splitOn '.')) ∧
    (∀ id : String,
      (requests.selects (channel id) = true ↔ '.' ∉ id.toList) ∧
      (reports.selects (statusChannel id) = true ↔ '.' ∉ id.toList) ∧
      reports.selects (channel id) = false ∧ requests.selects (statusChannel id) = false) ∧
    (∀ name : String, ¬ (requests.selects name = true ∧ reports.selects name = true)) ∧
    (∀ id other : String, channel id ≠ statusChannel other ∧ (id ≠ other →
      channel id ≠ channel other ∧ statusChannel id ≠ statusChannel other)) ∧
    ∀ id : String, '.' ∉ id.toList → id ≠ "" →
      ∀ (b : Broker) (queued : List Queued), b.isConnected = true → b.Holds queued →
        ∃ work results : Subscription, b.subscribe pattern = .ok work ∧
          b.subscribe statusPattern = .ok results ∧
          ∀ m : Message,
            (m.channel = channel id → ∃ b', b.publish m = .ok b' ∧
              { m with awaitsAck := true } ∈ (work.drain b').1 ∧
              ∀ other ∈ (results.drain b').1, other.channel ≠ channel id) ∧
            (m.channel = statusChannel id → ∃ b', b.publish m = .ok b' ∧
              { m with awaitsAck := true } ∈ (results.drain b').1 ∧
              ∀ other ∈ (work.drain b').1, other.channel ≠ statusChannel id) := by
  refine ⟨rfl, rfl, ?_, ?_, not_selected_by_both, ?_, ?_⟩
  · intro id b m hconnected hchannel
    refine publish_iff_segments hconnected ?_
    rcases hchannel with h | h
    · rw [h, isName_channel]
    · rw [h, isName_statusChannel]
  · intro id
    exact ⟨requests_selects_channel_iff, reports_selects_statusChannel_iff,
      reports_ignore_channel id, requests_ignore_status id⟩
  · intro id other
    refine ⟨channel_ne_statusChannel id other, fun hne => ⟨fun h => ?_, fun h => ?_⟩⟩
    · exact hne (channel_injective h)
    · exact hne (statusChannel_injective h)
  · intro id hpoint hnonempty b queued hconnected hholds
    have hid : id.toList ≠ [] := fun h => hnonempty (String.toList_eq_nil_iff.mp h)
    have hname : Channel.isName id = true := Channel.isName_of_not_mem hpoint hid
    have hrequests := requests_selects_channel_iff.mpr hpoint
    have hreports := reports_selects_statusChannel_iff.mpr hpoint
    refine ⟨_, _, Broker.subscribe_of_parse hconnected (p := requests) rfl,
      Broker.subscribe_of_parse hconnected (p := reports) rfl, fun m => ⟨fun h => ?_, fun h => ?_⟩⟩
    · rw [← h] at hrequests ⊢
      refine hholds.reaches hconnected ?_ hrequests (h ▸ reports_ignore_channel id)
      rw [h, isName_channel, hname]
    · rw [← h] at hreports ⊢
      refine hholds.reaches hconnected ?_ hreports (h ▸ requests_ignore_status id)
      rw [h, isName_statusChannel, hname]

theorem channels_fit_patterns_of_star :
    let id := "*status"
    let b := ({} : Broker).connect
    let m : Message := { channel := channel id, payload := {}, metadata := .empty }
    b.isConnected = true ∧ b.Holds [] ∧ '.' ∉ id.toList ∧ id ≠ "" ∧ m.channel = channel id ∧
      ((∃ b', b.publish m = .ok b') ↔ [] ∉ id.toList.splitOn '.') ∧
      id ≠ "status" ∧ channel id ≠ channel "status" ∧
      ∃ work results : Subscription, b.subscribe pattern = .ok work ∧
        b.subscribe statusPattern = .ok results ∧
        ∃ b', b.publish m = .ok b' ∧ { m with awaitsAck := true } ∈ (work.drain b').1 ∧
          ∀ other ∈ (results.drain b').1, other.channel ≠ channel id := by
  intro id b m
  have hpoint : '.' ∉ id.toList := by decide
  have hnonempty : id ≠ "" := by decide
  have hother : id ≠ "status" := by decide
  have hholds : b.Holds [] := Broker.holds_empty.connect
  obtain ⟨-, -, hpublish, -, -, hchannels, hreaches⟩ := channels_fit_patterns
  obtain ⟨work, results, hwork, hresults, hmessages⟩ :=
    hreaches id hpoint hnonempty b [] rfl hholds
  exact ⟨rfl, hholds, hpoint, hnonempty, rfl, hpublish id b m rfl (.inl rfl), hother,
    ((hchannels id "status").2 hother).1, work, results, hwork, hresults, (hmessages m).1 rfl⟩

end Job
end Dataflow
