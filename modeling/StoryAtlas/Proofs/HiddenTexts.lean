import Mathlib.Data.List.Sort
import StoryAtlas.Proofs.ArgumentDescriptions
import StoryAtlas.Proofs.ServedLines

/-!
# Texts stay out of the log

Of a text that is not kept the log tells no more than its length, of a list no more than its length,
and of an object no more than its keys. So requests that differ only in what is behind these leave
the same record, byte for byte, as long as they have the same outcome.
-/

namespace StoryAtlas.Proofs

/-! ### Arguments that are alike -/

/-- The log does not tell the values apart under the key. -/
inductive Alike (key : String) : Json → Json → Prop
  | same (value : Json) : Alike key value value
  | texts {s t : String} (hkey : isKeptText key = false) (hlength : s.length = t.length) :
      Alike key (.str s) (.str t)
  | lists {items others : List Json} (hlength : items.length = others.length) :
      Alike key (.arr items) (.arr others)
  | objects {fields others : Fields}
      (hkeys : ∀ k, (∃ value, fields.get? k = some value) ↔ ∃ value, others.get? k = some value) :
      Alike key (.obj fields) (.obj others)

/-- The arguments have the same keys, and at each key values that are alike. -/
def AlikeArguments (arguments others : Fields) : Prop :=
  ∀ key, Option.Rel (Alike key) (arguments.get? key) (others.get? key)

lemma describeArgument_eq_of_alike {key : String} {value other : Json} (h : Alike key value other)
    (hvalue : Tidy value) (hother : Tidy other) :
    describeArgument key value = describeArgument key other := by
  cases h with
  | same => rfl
  | texts hkey hlength => simp [describeArgument, hkey, hlength]
  | lists hlength => simp [describeArgument, hlength]
  | @objects fields others hkeys =>
    obtain ⟨hsorted, hmem⟩ := sorted_keys ((tidy_obj_iff fields).mp hvalue)
    obtain ⟨hsorted', hmem'⟩ := sorted_keys ((tidy_obj_iff others).mp hother)
    have hsame : fields.map Prod.fst = others.map Prod.fst :=
      hsorted.eq_of_mem_iff hsorted' fun k => by rw [hmem, hmem', hkeys]
    rw [describeArgument, describeArgument, hsame]

lemma tidy_get? {fields : Fields} (h : TidyFields fields) {key : String} {value : Json}
    (hvalue : fields.get? key = some value) : Tidy value :=
  h.2 _ ((mem_iff_get?_eq_some h.1 key value).mpr hvalue)

/-- The keys of the arguments with their descriptions. -/
def descriptions (arguments : Fields) : List (String × List (String × Json)) :=
  arguments.map fun argument => (argument.1, describeArgument argument.1 argument.2)

lemma describeArguments_eq (arguments : Fields) :
    describeArguments arguments = Fields.ofList ((descriptions arguments).flatMap Prod.snd) := by
  rw [describeArguments, descriptions, List.flatMap_map]

lemma mem_descriptions_iff {arguments : Fields} (h : TidyFields arguments) (key : String)
    (description : List (String × Json)) : (key, description) ∈ descriptions arguments ↔
      ∃ value, arguments.get? key = some value ∧ describeArgument key value = description := by
  simp only [descriptions, List.mem_map, Prod.mk.injEq, Prod.exists, ← mem_iff_get?_eq_some h.1]
  constructor
  · rintro ⟨_, value, hmem, rfl, rfl⟩
    exact ⟨value, hmem, rfl⟩
  · rintro ⟨value, hmem, rfl⟩
    exact ⟨key, value, hmem, rfl, rfl⟩

section Arguments

variable {arguments others : Fields} (h : TidyFields arguments) (hothers : TidyFields others)
  (halike : AlikeArguments arguments others)

include h hothers halike

/-- Arguments that are alike have the same keys with the same descriptions. -/
lemma descriptions_eq_of_alike : descriptions arguments = descriptions others := by
  have hsorted {fields : Fields} (h : TidyFields fields) :
      (descriptions fields).Pairwise fun a b => a.1 < b.1 := List.pairwise_map.mpr h.1
  have : Std.Irrefl fun a b : String × List (String × Json) => a.1 < b.1 := ⟨fun a => lt_irrefl a.1⟩
  have : Std.Antisymm fun a b : String × List (String × Json) => a.1 < b.1 :=
    ⟨fun a b hlt hgt => absurd hgt hlt.not_gt⟩
  refine (hsorted h).eq_of_mem_iff (hsorted hothers) fun ⟨key, description⟩ => ?_
  rw [mem_descriptions_iff h, mem_descriptions_iff hothers]
  generalize hfound : arguments.get? key = found
  generalize hfound' : others.get? key = found'
  have hkey := halike key
  rw [hfound, hfound'] at hkey
  cases hkey with
  | none => rfl
  | some hvalue =>
    have hsame := describeArgument_eq_of_alike hvalue (tidy_get? h hfound)
      (tidy_get? hothers hfound')
    simp only [Option.some.injEq, exists_eq_left', hsame]

/-- Arguments that are alike are described alike. -/
lemma describeArguments_eq_of_alike : describeArguments arguments = describeArguments others := by
  rw [describeArguments_eq, describeArguments_eq, descriptions_eq_of_alike h hothers halike]

/-- Arguments that are alike are kept alike: what is kept as it is, is the same. -/
lemma keptArguments_eq_of_alike : keptArguments arguments = keptArguments others := by
  have : Std.Irrefl fun a b : String × Json => a.1 < b.1 := ⟨fun a => lt_irrefl a.1⟩
  have : Std.Antisymm fun a b : String × Json => a.1 < b.1 :=
    ⟨fun a b hlt hgt => absurd hgt hlt.not_gt⟩
  refine (h.1.filter _).eq_of_mem_iff (hothers.1.filter _) fun ⟨key, value⟩ => ?_
  simp only [keptArguments, List.mem_filter, mem_iff_get?_eq_some h.1,
    mem_iff_get?_eq_some hothers.1]
  have hkey := halike key
  generalize arguments.get? key = found at hkey ⊢
  generalize others.get? key = found' at hkey ⊢
  cases hkey with
  | none => rfl
  | some hvalue =>
    cases hvalue with
    | same => rfl
    | texts | lists | objects =>
      constructor <;>
      · rintro ⟨hsome, hkept⟩
        obtain rfl := Option.some.inj hsome
        cases hkept

end Arguments

/-! ### Requests -/

lemma tidyFields_objectOr {value : Option Json} {error : RequestError} {fields : Fields}
    (hvalue : ∀ found, value = some found → Tidy found)
    (h : objectOr value error = .ok fields) : TidyFields fields := by
  unfold objectOr at h
  split at h
  · obtain rfl := Except.ok.inj h
    exact tidyFields_nil
  · obtain rfl := Except.ok.inj h
    exact (tidy_obj_iff _).mp (hvalue _ rfl)
  · cases h

/-- The arguments of a request have their keys in order. -/
lemma tidyFields_arguments {id : String} {payload : Json} {request : Request}
    (hpayload : Tidy payload) (h : Request.read id payload = .ok request) :
    TidyFields request.arguments := by
  have hcall : ∀ tool arguments, readCall payload = .ok (tool, arguments) →
      TidyFields arguments := by
    intro tool arguments hcall
    unfold readCall at hcall
    split at hcall
    case h_2 => cases hcall
    next fields =>
    have hfields := (tidy_obj_iff fields).mp hpayload
    split at hcall
    · cases hcall
    split at hcall
    · cases hcall
    next params hparams =>
    have htidy := tidyFields_objectOr (fun _ => tidy_get? hfields) hparams
    split_ifs at hcall
    · unfold unwrapCall at hcall
      split at hcall
      · cases hcall
      split at hcall
      · cases hcall
      next _ harguments =>
      obtain ⟨_, rfl⟩ := Prod.mk.inj (Except.ok.inj hcall)
      exact tidyFields_objectOr (fun _ => tidy_get? htidy) harguments
    · obtain ⟨_, rfl⟩ := Prod.mk.inj (Except.ok.inj hcall)
      exact htidy
  unfold Request.read at h
  split at h
  · cases h
  next tool arguments hread =>
  obtain rfl := Except.ok.inj h
  exact hcall tool arguments hread

/-- A server whose logs can be written to reads the request from the payload. -/
structure Asked (session : Session) (payload : Json) (request : Request) : Prop where
  writable : LogsWritable session
  tidy : Tidy payload
  read : ReadsAs session payload request

/-- The replies tell the same outcome. -/
structure SameOutcome (reply other : Reply) : Prop where
  ok : reply.ok = other.ok
  blocked : reply.blocked = other.blocked
  errorCode : reply.error.map ReplyError.code = other.error.map ReplyError.code

/-- The bytes of a record in the log. -/
def recordBytes (record : AuditRecord) : ByteArray :=
  (record.toJson.render ++ "\n").toUTF8

lemma handlePayload_of_asked {session : Session} {payload : Json} {request : Request}
    (h : Asked session payload request) {now : Moment} (hgiven : Recordable now request) :
    ∃ next reply,
      session.handlePayload now payload = (next, .ok reply) ∧ reply.requestId = request.id ∧
      fileBytes next.disk session.auditFile = fileBytes session.disk session.auditFile ++
        recordBytes (requestRecord now request.tool request.arguments reply) := by
  obtain ⟨place, indexPlace, hlogs⟩ := logsAt_of_writable session h.writable
  obtain ⟨id, used, hid, hread⟩ := h.read
  obtain ⟨next, reply, hhandle, hconfig, hnext, _, hid, hbytes⟩ :=
    handleRequest_of_logsAt hlogs now hid hread hgiven
  have haudit := hnext.audit
  rw [auditFile_of_config hconfig] at haudit
  refine ⟨next, reply, hhandle, hid, ?_⟩
  rw [fileBytes_of_filePlace _ _ _ haudit, fileBytes_of_filePlace _ _ _ hlogs.audit, hbytes]
  rfl

lemma requestRecord_eq {now : Moment} {tool : String} {arguments others : Fields}
    {reply other : Reply} (hid : reply.requestId = other.requestId)
    (houtcome : SameOutcome reply other)
    (h : describeArguments arguments = describeArguments others) :
    requestRecord now tool arguments reply = requestRecord now tool others other := by
  simp only [requestRecord, hid, houtcome.ok, houtcome.blocked, houtcome.errorCode, h]

/-- Arguments with the same keys, whose values are the same or both texts of one length that are not
kept, both lists of one length or both objects with the same keys, are described in the same way. So
two requests with such arguments, of one id and for one tool, are both recorded if one can be, and
they leave the same bytes in the log when they have the same outcome at the same time. -/
theorem texts_stay_out_of_log :
    (∀ arguments others : Fields, TidyFields arguments → TidyFields others →
      AlikeArguments arguments others →
        describeArguments arguments = describeArguments others) ∧
    ∀ (session other : Session) (payload payload' : Json) (request request' : Request)
      (now : Moment), Asked session payload request → Asked other payload' request' →
      request.id = request'.id → request.tool = request'.tool →
      AlikeArguments request.arguments request'.arguments → Recordable now request →
      ∃ next reply next' reply',
        session.handlePayload now payload = (next, .ok reply) ∧
        other.handlePayload now payload' = (next', .ok reply') ∧
        (SameOutcome reply reply' →
          let record := requestRecord now request.tool request.arguments reply
          fileBytes next.disk session.auditFile =
            fileBytes session.disk session.auditFile ++ recordBytes record ∧
          fileBytes next'.disk other.auditFile =
            fileBytes other.disk other.auditFile ++ recordBytes record) := by
  constructor
  · exact fun _ _ => describeArguments_eq_of_alike
  · intro session other payload payload' request request' now hasked hasked' hid htool halike
      hgiven
    obtain ⟨_, _, _, hread⟩ := hasked.read
    obtain ⟨_, _, _, hread'⟩ := hasked'.read
    have htidy := tidyFields_arguments hasked.tidy hread
    have htidy' := tidyFields_arguments hasked'.tidy hread'
    have hgiven' : Recordable now request' := by
      rw [Recordable, ← keptArguments_eq_of_alike htidy htidy' halike]
      exact hgiven
    obtain ⟨next, reply, hhandle, hreply, hbytes⟩ := handlePayload_of_asked hasked hgiven
    obtain ⟨next', reply', hhandle', hreply', hbytes'⟩ := handlePayload_of_asked hasked' hgiven'
    refine ⟨next, reply, next', reply', hhandle, hhandle', fun houtcome => ⟨hbytes, ?_⟩⟩
    have hdescribed := describeArguments_eq_of_alike htidy htidy' halike
    rw [hbytes', ← htool]
    refine congrArg (fun record => _ ++ recordBytes record)
      (requestRecord_eq ?_ houtcome hdescribed).symm
    rw [hreply, hreply', hid]

/-- The arguments of a request to take in a text, with notes that no tool asks for. -/
def notedArguments (text : String) (notes : List String) : Fields :=
  [("notes", .strings notes), ("path", .str "a.ink"), ("text", .str text)]

def notedUpdate (text : String) (notes : List String) : Json :=
  .obj [("id", .str "r"), ("method", .str "ink.update"),
    ("params", .obj (notedArguments text notes))]

lemma asked_notedUpdate (text : String) (notes : List String) :
    Asked (projectSession []) (notedUpdate text notes)
      ⟨"r", "ink.update", notedArguments text notes⟩ := by
  have hsorted : ["notes", "path", "text"].Pairwise (· < ·) ∧
      ["id", "method", "params"].Pairwise (· < ·) := by decide
  have harguments : Tidy (.obj (notedArguments text notes)) :=
    .obj _ (List.pairwise_map.mp hsorted.1) (by simp [notedArguments])
  exact ⟨logsWritable_projectSession,
    .obj _ (List.pairwise_map.mp hsorted.2) (by simp [harguments]), ⟨"r", 0, rfl, rfl⟩⟩

lemma alike_notedArguments {text other : String} {notes others : List String}
    (htext : text.length = other.length) (hnotes : notes.length = others.length) :
    AlikeArguments (notedArguments text notes) (notedArguments other others) := by
  intro key
  simp only [notedArguments, Fields.get?, List.lookup_cons, List.lookup_nil]
  split
  · exact .some (.lists (by simpa using hnotes))
  split
  · exact .some (.same _)
  split
  · next htold =>
    obtain rfl := beq_iff_eq.mp htold
    exact .some (.texts rfl htext)
  · exact .none

/-- The outcome of a reply as the log tells it. -/
def outcome (reply : Reply) : Bool × Bool × Option String :=
  (reply.ok, reply.blocked, reply.error.map ReplyError.code)

lemma sameOutcome_of_eq {session other : Session} {now : Moment} {payload payload' : Json}
    {next next' : Session} {reply reply' : Reply} {told : Bool × Bool × Option String}
    (h : session.handlePayload now payload = (next, .ok reply))
    (h' : other.handlePayload now payload' = (next', .ok reply'))
    (htold : (session.handlePayload now payload).2.toOption.map outcome = some told)
    (htold' : (other.handlePayload now payload').2.toOption.map outcome = some told) :
    SameOutcome reply reply' := by
  rw [h] at htold
  rw [h'] at htold'
  have hsame : outcome reply = outcome reply' :=
    Option.some.inj (htold.trans htold'.symm)
  simp only [outcome, Prod.mk.injEq] at hsame
  exact ⟨hsame.1, hsame.2.1, hsame.2.2⟩

/-- Both updates succeed. -/
lemma outcome_notedUpdate : ∀ noted ∈ [("=== a", ["x"]), ("=== b", ["none"])],
    ((projectSession []).handlePayload sampleMoment
      (notedUpdate noted.1 noted.2)).2.toOption.map outcome = some (true, false, none) := by
  decide +kernel

theorem texts_stay_out_of_log_update :
    Asked (projectSession []) (notedUpdate "=== a" ["x"])
      ⟨"r", "ink.update", notedArguments "=== a" ["x"]⟩ ∧
    Asked (projectSession []) (notedUpdate "=== b" ["none"])
      ⟨"r", "ink.update", notedArguments "=== b" ["none"]⟩ ∧
    AlikeArguments (notedArguments "=== a" ["x"]) (notedArguments "=== b" ["none"]) ∧
    Recordable sampleMoment ⟨"r", "ink.update", notedArguments "=== a" ["x"]⟩ ∧
    ∃ next reply next' reply',
      (projectSession []).handlePayload sampleMoment (notedUpdate "=== a" ["x"]) =
        (next, .ok reply) ∧
      (projectSession []).handlePayload sampleMoment (notedUpdate "=== b" ["none"]) =
        (next', .ok reply') ∧
      SameOutcome reply reply' ∧
      fileBytes next.disk (projectSession []).auditFile =
        fileBytes next'.disk (projectSession []).auditFile := by
  have halike : AlikeArguments (notedArguments "=== a" ["x"]) (notedArguments "=== b" ["none"]) :=
    alike_notedArguments (by decide) rfl
  have hgiven : Recordable sampleMoment ⟨"r", "ink.update", notedArguments "=== a" ["x"]⟩ :=
    refusal?_nil 900
  have hasked := asked_notedUpdate "=== a" ["x"]
  have hasked' := asked_notedUpdate "=== b" ["none"]
  obtain ⟨next, reply, next', reply', hhandle, hhandle', hbytes⟩ :=
    texts_stay_out_of_log.2 _ _ _ _ _ _ sampleMoment hasked hasked' rfl rfl halike hgiven
  have hsame := sameOutcome_of_eq hhandle hhandle'
    (outcome_notedUpdate ("=== a", ["x"]) (by simp))
    (outcome_notedUpdate ("=== b", ["none"]) (by simp))
  exact ⟨hasked, hasked', halike, hgiven, next, reply, next', reply', hhandle, hhandle', hsame,
    (hbytes hsame).1.trans (hbytes hsame).2.symm⟩

end StoryAtlas.Proofs
