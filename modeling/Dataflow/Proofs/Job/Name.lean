/-
Job identifiers as segments of channel names.

The text of an identifier has no point and is not empty, so it is one segment of
the two channels of its job, and different identifiers name different channels.
The pattern of all jobs selects the channels that jobs are published on and none
that results are published on, and the pattern of all results the other way round.
The identifier is whatever text a job's metadata give: with a point in it neither
pattern selects its channels, and no text makes one kind of channel pass for the other.
-/
import Dataflow.Job.Descriptor
import Dataflow.Proofs.Channel.Name
import Mathlib.Data.List.Basic

namespace Dataflow

namespace JobId

theorem hexDigit_ne_hyphen (d : Fin 16) : hexDigit d ≠ '-' := by
  revert d
  decide

theorem hexDigit_ne_point (d : Fin 16) : hexDigit d ≠ '.' := by
  revert d
  decide

theorem hexDigit_injective : Function.Injective hexDigit := by
  intro a b
  revert a b
  decide

/-- Without its hyphens an identifier is its digits. -/
theorem filter_chars (id : JobId) :
    id.chars.filter (· ≠ '-') = id.digits.toList.map hexDigit := by
  have hdigits : ∀ part : List (Fin 16),
      (part.map hexDigit).filter (· ≠ '-') = part.map hexDigit := by
    intro part
    refine List.filter_eq_self.mpr fun c hc => ?_
    obtain ⟨d, -, rfl⟩ := List.mem_map.mp hc
    simpa using hexDigit_ne_hyphen d
  have hgroups : (digits : List (Fin 16)) → digits.take 8 ++ (digits.drop 8).take 4 ++
      (digits.drop 12).take 4 ++ (digits.drop 16).take 4 ++ digits.drop 20 = digits := by
    intro digits
    have h16 := List.take_append_drop 4 (digits.drop 16)
    have h12 := List.take_append_drop 4 (digits.drop 12)
    have h8 := List.take_append_drop 4 (digits.drop 8)
    rw [List.drop_drop] at h16 h12 h8
    rw [List.append_assoc, h16, List.append_assoc, h12, List.append_assoc, h8,
      List.take_append_drop]
  simp only [chars, List.filter_append, ← List.map_take, ← List.map_drop, hdigits]
  have hhyphen : ['-'].filter (· ≠ '-') = [] := rfl
  rw [hhyphen]
  simp only [List.append_nil, ← List.map_append]
  rw [hgroups]

theorem text_injective : Function.Injective text := by
  intro a b h
  have hchars : a.chars = b.chars := by
    have := congrArg String.toList h
    simpa [text] using this
  have hdigits : a.digits.toList = b.digits.toList := by
    have := congrArg (List.filter (· ≠ '-')) hchars
    rw [filter_chars, filter_chars] at this
    exact List.map_injective_iff.mpr hexDigit_injective this
  cases a
  cases b
  simpa using Vector.toList_inj.mp hdigits

theorem text_toList (id : JobId) : id.text.toList = id.chars := by
  simp [text]

theorem point_not_mem (id : JobId) : '.' ∉ id.text.toList := by
  rw [text_toList]
  intro h
  have hfilter : '.' ∈ id.chars.filter (· ≠ '-') := List.mem_filter.mpr ⟨h, by decide⟩
  rw [filter_chars] at hfilter
  obtain ⟨d, -, hd⟩ := List.mem_map.mp hfilter
  exact hexDigit_ne_point d hd

theorem text_toList_ne_nil (id : JobId) : id.text.toList ≠ [] := by
  rw [text_toList]
  have h : '-' ∈ id.chars := by simp [chars]
  exact List.ne_nil_of_mem h

theorem text_ne_empty (id : JobId) : id.text.isEmpty = false := by
  rw [← Bool.not_eq_true, String.isEmpty_iff]
  intro h
  exact id.text_toList_ne_nil (by rw [h]; rfl)

theorem isName_text (id : JobId) : Channel.isName id.text = true :=
  Channel.isName_of_not_mem id.point_not_mem id.text_toList_ne_nil

end JobId

namespace Job

open Channel

theorem channel_eq (id : String) : channel id = ("jobs" ++ "." ++ id) ++ "." ++ "cfg" := by
  simp [channel, String.append_assoc]

theorem statusChannel_eq (id : String) :
    statusChannel id = ("jobs" ++ "." ++ id) ++ "." ++ "status" := by
  simp [statusChannel, String.append_assoc]

theorem segments_channel (id : String) :
    segments (channel id) = segments "jobs" ++ segments id ++ segments "cfg" := by
  rw [channel_eq, segments_append, segments_append]

theorem segments_statusChannel (id : String) :
    segments (statusChannel id) = segments "jobs" ++ segments id ++ segments "status" := by
  rw [statusChannel_eq, segments_append, segments_append]

/-- The channels of a job have names if its identifier could be one. -/
theorem isName_channel (id : String) : isName (channel id) = isName id := by
  have hjobs : isName "jobs" = true := rfl
  have hkind : isName "cfg" = true := rfl
  rw [channel_eq, isName_append, isName_append, hjobs, hkind, Bool.true_and, Bool.and_true]

theorem isName_statusChannel (id : String) : isName (statusChannel id) = isName id := by
  have hjobs : isName "jobs" = true := rfl
  have hkind : isName "status" = true := rfl
  rw [statusChannel_eq, isName_append, isName_append, hjobs, hkind, Bool.true_and, Bool.and_true]

theorem channel_injective : Function.Injective channel := fun _ _ h =>
  (String.append_right_inj _).mp ((String.append_left_inj _).mp h)

theorem statusChannel_injective : Function.Injective statusChannel := fun _ _ h =>
  (String.append_right_inj _).mp ((String.append_left_inj _).mp h)

def requests : ChannelPattern := ⟨pattern, rfl⟩

def reports : ChannelPattern := ⟨statusPattern, rfl⟩

theorem parse_statusPattern : ChannelPattern.parse statusPattern = .ok reports := rfl

/-- A pattern with a star for the identifier selects the names of three segments that agree with it
in the first and in the last one. -/
theorem segmentsMatch_job_iff {kind : List UInt8} (hkind : Glob.star ∉ kind)
    {name : List (List UInt8)} :
    ChannelPattern.segmentsMatch (segments "jobs" ++ [[Glob.star]] ++ [kind]) name = true ↔
      ∃ segment, name = segments "jobs" ++ [segment] ++ [kind] := by
  have hjobs : Glob.star ∉ utf8 "jobs".toList := by decide
  have hpattern : segments "jobs" ++ [[Glob.star]] ++ [kind] =
      [utf8 "jobs".toList, [Glob.star], kind] := rfl
  rw [hpattern]
  constructor
  · intro h
    obtain ⟨first, _, rfl, hfirst, h⟩ := ChannelPattern.segmentsMatch_cons_iff.mp h
    obtain ⟨segment, _, rfl, -, h⟩ := ChannelPattern.segmentsMatch_cons_iff.mp h
    obtain ⟨last, _, rfl, hlast, h⟩ := ChannelPattern.segmentsMatch_cons_iff.mp h
    rw [ChannelPattern.segmentsMatch_nil_iff] at h
    rw [Glob.matchesAll_iff_eq hjobs] at hfirst
    rw [Glob.matchesAll_iff_eq hkind] at hlast
    rw [h, ← hfirst, ← hlast]
    exact ⟨segment, rfl⟩
  · intro ⟨segment, h⟩
    have hfirst := (Glob.matchesAll_iff_eq hjobs (utf8 "jobs".toList)).mpr rfl
    have hlast := (Glob.matchesAll_iff_eq hkind kind).mpr rfl
    rw [h]
    show (Glob.matchesAll (utf8 "jobs".toList) (utf8 "jobs".toList) &&
      (Glob.matchesAll [Glob.star] segment && (Glob.matchesAll kind kind && true))) = true
    rw [hfirst, Glob.matchesAll_star, hlast]
    rfl

/-- Of the names around an identifier it selects those of its own kind, and only if the identifier
is one segment. -/
theorem segmentsMatch_job {kind kind' : List UInt8} (hkind : Glob.star ∉ kind) (id : String) :
    ChannelPattern.segmentsMatch (segments "jobs" ++ [[Glob.star]] ++ [kind])
        (segments "jobs" ++ segments id ++ [kind']) = true ↔
      '.' ∉ id.toList ∧ kind' = kind := by
  rw [segmentsMatch_job_iff hkind, ← segments_eq_singleton_iff]
  constructor
  · intro ⟨segment, h⟩
    have hbefore := List.append_inj_left' h rfl
    have hlast := List.append_inj_right' h rfl
    exact ⟨⟨segment, List.append_cancel_left hbefore⟩, List.singleton_inj.mp hlast⟩
  · intro ⟨⟨segment, hsegment⟩, heq⟩
    exact ⟨segment, by rw [hsegment, heq]⟩

theorem star_not_mem_cfg : Glob.star ∉ utf8 "cfg".toList := by decide

theorem star_not_mem_status : Glob.star ∉ utf8 "status".toList := by decide

theorem requests_selects_iff {name : String} :
    requests.selects name = true ↔
      ∃ segment, segments name = segments "jobs" ++ [segment] ++ segments "cfg" :=
  segmentsMatch_job_iff star_not_mem_cfg

theorem reports_selects_iff {name : String} :
    reports.selects name = true ↔
      ∃ segment, segments name = segments "jobs" ++ [segment] ++ segments "status" :=
  segmentsMatch_job_iff star_not_mem_status

theorem requests_selects_channel_iff {id : String} :
    requests.selects (channel id) = true ↔ '.' ∉ id.toList := by
  rw [ChannelPattern.selects, segments_channel]
  exact (segmentsMatch_job star_not_mem_cfg id).trans (and_iff_left rfl)

theorem reports_selects_statusChannel_iff {id : String} :
    reports.selects (statusChannel id) = true ↔ '.' ∉ id.toList := by
  rw [ChannelPattern.selects, segments_statusChannel]
  exact (segmentsMatch_job star_not_mem_status id).trans (and_iff_left rfl)

theorem segments_cfg_ne_status : segments "cfg" ≠ segments "status" := by decide

/-- Whether or not there are points in an identifier, no result is taken for a request. -/
theorem requests_ignore_status (id : String) : requests.selects (statusChannel id) = false := by
  rw [ChannelPattern.selects, segments_statusChannel, ← Bool.not_eq_true]
  intro h
  have hkind := ((segmentsMatch_job star_not_mem_cfg id).mp h).2
  exact segments_cfg_ne_status (congrArg ([·]) hkind.symm)

/-- Nor is a request taken for a result. -/
theorem reports_ignore_channel (id : String) : reports.selects (channel id) = false := by
  rw [ChannelPattern.selects, segments_channel, ← Bool.not_eq_true]
  intro h
  have hkind := ((segmentsMatch_job star_not_mem_status id).mp h).2
  exact segments_cfg_ne_status (congrArg ([·]) hkind)

theorem requests_selects_channel (id : JobId) : requests.selects (channel id.text) = true :=
  requests_selects_channel_iff.mpr id.point_not_mem

theorem requests_selects_statusChannel (id : JobId) :
    requests.selects (statusChannel id.text) = false :=
  requests_ignore_status id.text

theorem reports_selects_statusChannel (id : JobId) :
    reports.selects (statusChannel id.text) = true :=
  reports_selects_statusChannel_iff.mpr id.point_not_mem

theorem reports_selects_channel (id : JobId) : reports.selects (channel id.text) = false :=
  reports_ignore_channel id.text

theorem channel_ne_statusChannel (a b : String) : channel a ≠ statusChannel b := by
  intro h
  have hsegments := congrArg segments h
  rw [segments_channel, segments_statusChannel] at hsegments
  exact segments_cfg_ne_status (List.append_inj_right' hsegments rfl)

/-- The last segment of a name decides which of the two patterns can select it. -/
theorem not_selected_by_both (name : String) :
    ¬ (requests.selects name = true ∧ reports.selects name = true) := by
  intro ⟨hrequests, hreports⟩
  obtain ⟨segment, hrequest⟩ := requests_selects_iff.mp hrequests
  obtain ⟨segment', hreport⟩ := reports_selects_iff.mp hreports
  exact segments_cfg_ne_status (List.append_inj_right' (hrequest.symm.trans hreport) rfl)

end Job
end Dataflow
