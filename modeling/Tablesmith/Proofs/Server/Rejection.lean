/-
# Rejected requests

A request is rejected if the status of its response is between 400 and 499. There are four ways for
that to come about, and none of them changes the store:

| status | what happened |
| --- | --- |
| 404, 405 | the request leads nowhere |
| 400, 422 | its body asks for nothing that can be carried out |
| 404 | the operation found no such session |
| 400 | the operation was asked for tables that are not declared |

The first two do not come to the store at all. An operation that finds no session does nothing to it
(`Operation.store_of_isBlank`), and one that complains of tables has done nothing
(`Operation.store_of_unknownTables`), since what can fail behind a selection complains of something
else.

Main statement: `Server.rejections_leave_no_trace`.
-/

import Tablesmith.Proofs.Workspace.Failure
import Tablesmith.Server.Api

namespace Tablesmith

namespace Response

/-- Does the response reject its request? -/
def IsRejection (r : Response) : Prop := 400 ≤ r.status ∧ r.status < 500

instance decidableIsRejection (r : Response) : Decidable r.IsRejection :=
  inferInstanceAs (Decidable (_ ∧ _))

/-- A failure within the server rejects nothing. -/
theorem not_isRejection_failure : ¬ failure.IsRejection := by decide

/-- Neither does an answer to what was done. -/
theorem not_isRejection_done (body : Value) : ¬ (done body).IsRejection := by
  rw [done, ofDocument]
  split
  · simp [IsRejection]
  · exact not_isRejection_failure

end Response

/-- The reply holds nothing to be shown, for there is no such session. A workspace is not shown as a
whole either. -/
inductive Reply.IsBlank : Reply → Prop
  | schema : IsBlank (.schema none)
  | generation : IsBlank (.generation none)
  | deleted : IsBlank (.deleted false)
  | workspace (w : Option Workspace) : IsBlank (.workspace w)

/-- A blank reply has no schema. -/
theorem Reply.IsBlank.eq_none {found : Option Schema} (h : Reply.IsBlank (.schema found)) :
    found = none := by
  cases h
  rfl

namespace Store

/-- Where no schema is found behind marks that were set, there was no such session. -/
theorem eq_self_of_remark {s : Store} {session : Text} (f : Schema → Schema)
    (h : (match s.schema? session with
      | some schema => s.setSchema session (f schema)
      | none => s).schema? session = none) :
    (match s.schema? session with
      | some schema => s.setSchema session (f schema)
      | none => s) = s := by
  cases hschema : s.schema? session with
  | none => rfl
  | some schema =>
    rw [hschema] at h
    simp only [schema?_setSchema hschema] at h
    cases h

/-- Deleting a session that is not there changes nothing. -/
theorem delete_eq_self {s : Store} {session : Text} (h : s.find? session = none) :
    s.delete session = s := by
  have hkept : s.workspaces.filter (fun w => w.session ≠ session) = s.workspaces := by
    refine List.filter_eq_self.2 fun w hw => ?_
    simpa using List.find?_eq_none.1 h w hw
  rw [delete, hkept]

end Store

/-- Where no schema is found behind a selection, there was no such session either. -/
theorem Service.selecting_eq_self {s s' : Store} {session : Text} {tables : Option (List Text)}
    (h : selecting s session tables = .ok s') (hnone : s'.schema? session = none) : s' = s := by
  obtain ⟨rfl, -⟩ | ⟨names, schema, -, hschema, -, rfl⟩ := selecting_cases h
  · rfl
  · rw [Store.schema?_setSchema hschema] at hnone
    cases hnone

namespace Operation

variable {e : Surroundings} {s : Store} {o : Operation}

/-- A generation answers with what the service answers. -/
theorem reply_generate (session : Text) (database : Option Text) (tables : Option (List Text)) :
    ((generate session database tables).run e s).2 =
      (Service.generate e.document e.settings e.pause s session database tables).2.map
        .generation := rfl

/-- **An operation with nothing to show leaves the store as it was.** -/
theorem store_of_isBlank {reply : Reply} (h : (o.run e s).2 = .ok reply)
    (hblank : reply.IsBlank) : (o.run e s).1 = s := by
  cases o with
  | parse session mode script =>
    rw [run] at h ⊢
    split at h
    · obtain rfl := Except.ok.inj h
      cases hblank
    · cases h
  | look session => rfl
  | snapshot session => rfl
  | toggle session table =>
    obtain rfl := Except.ok.inj h
    exact Store.eq_self_of_remark (Schema.toggle table) hblank.eq_none
  | toggleAll session =>
    obtain rfl := Except.ok.inj h
    exact Store.eq_self_of_remark Schema.toggleAll hblank.eq_none
  | selectOnly session tables =>
    rw [run] at h ⊢
    split at h
    · next s' hs' =>
      obtain rfl := Except.ok.inj h
      have hselecting : Service.selecting s session (some tables) = .ok s' := hs'
      exact Service.selecting_eq_self hselecting hblank.eq_none
    · cases h
  | generate session database tables =>
    rw [run] at h ⊢
    cases hselecting : Service.selecting s session tables with
    | error fault =>
      rw [Service.generate_of_refused hselecting] at h
      cases h
    | ok s' =>
      cases hschema : s'.schema? session with
      | none =>
        rw [Service.generate_of_absent hselecting hschema]
        exact Service.selecting_eq_self hselecting hschema
      | some schema =>
        -- A generation that was made is shown.
        rw [Service.generate_of_selected hselecting hschema] at h
        obtain ⟨found, hfound, rfl⟩ := exists_of_map_eq_ok h
        cases hpause : Service.pause e.pause with
        | error fault =>
          rw [hpause] at hfound
          cases hfound
        | ok _ =>
          rw [hpause] at hfound
          obtain ⟨generation, -, rfl⟩ := exists_of_map_eq_ok hfound
          cases hblank
  | delete session =>
    obtain rfl := Except.ok.inj h
    cases hfound : s.find? session with
    | none => exact Store.delete_eq_self hfound
    | some w =>
      rw [hfound] at hblank
      cases hblank

/-- **One that complains of tables has left the store as it was.** -/
theorem store_of_unknownTables (hdocument : SparesTables e.document) {names known : List Text}
    (h : (o.run e s).2 = .error (.unknownTables names known)) : (o.run e s).1 = s := by
  cases o with
  | parse session mode script =>
    rw [run] at h ⊢
    split at h
    · cases h
    · rfl
  | selectOnly session tables =>
    rw [run] at h ⊢
    split at h
    · cases h
    · rfl
  | generate session database tables =>
    rw [reply_generate] at h
    have hgenerate : (Service.generate e.document e.settings e.pause s session database tables).2 =
        .error (.unknownTables names known) := by
      generalize (Service.generate _ _ _ _ _ _ _).2 = outcome at h ⊢
      cases outcome with
      | error fault => rw [Except.error.inj h]
      | ok generation => cases h
    exact Service.generate_of_unknownTables hdocument hgenerate
  | look session => cases h
  | snapshot session => cases h
  | toggle session table => cases h
  | toggleAll session => cases h
  | delete session => cases h

/-- A script that was parsed leaves a schema under the name that is answered. -/
theorem schema?_of_session {name : Text} (h : (o.run e s).2 = .ok (.session name)) :
    ∃ schema, (o.run e s).1.schema? name = some schema := by
  have hfind : ∀ session script schema, (s.establish session script schema).schema? session =
      some schema := fun session script schema => by
    rw [Store.schema?, Store.find?_establish, if_pos rfl]
    rfl
  cases o with
  | parse session mode script =>
    rw [run, Store.parseInto] at h ⊢
    cases hschema : Schema.ofRequest (Pipeline.modeOf e.document) mode script with
    | error fault =>
      rw [hschema] at h
      cases h
    | ok schema =>
      rw [hschema] at h
      simp only [Except.map] at h ⊢
      cases hsession : Text.nonempty? session with
      | none =>
        rw [hsession] at h
        obtain rfl := Reply.session.inj (Except.ok.inj h)
        exact ⟨schema, hfind ..⟩
      | some chosen =>
        rw [hsession] at h
        obtain rfl := Reply.session.inj (Except.ok.inj h)
        exact ⟨schema, hfind ..⟩
  | selectOnly session tables =>
    rw [run] at h
    split at h <;> cases h
  | generate session database tables =>
    rw [reply_generate] at h
    generalize (Service.generate _ _ _ _ _ _ _).2 = outcome at h
    cases outcome <;> cases h
  | look session => cases h
  | snapshot session => cases h
  | toggle session table => cases h
  | toggleAll session => cases h
  | delete session => cases h

end Operation

namespace Server

variable {v : Server} {s : Store}

/-- A reply that is answered by a rejection has nothing to show. -/
theorem isBlank_of_respond {session : Text} {reply : Reply}
    (hsession : ∀ name, reply ≠ .session name) (h : (respond session reply).IsRejection) :
    reply.IsBlank := by
  cases reply with
  | session name => exact absurd rfl (hsession name)
  | workspace w => exact .workspace w
  | schema found =>
    cases found with
    | none => exact .schema
    | some schema => exact absurd h (Response.not_isRejection_done _)
  | generation found =>
    cases found with
    | none => exact .generation
    | some g => exact absurd h (Response.not_isRejection_done _)
  | deleted wasThere =>
    cases wasThere with
    | false => exact .deleted
    | true => exact absurd h (Response.not_isRejection_done _)

/-- **An operation whose response is a rejection has left the store as it was.** -/
theorem store_of_carryOut (hdocument : SparesTables v.surroundings.document) {o : Operation}
    (h : (v.carryOut s o).2.IsRejection) : (v.carryOut s o).1 = s := by
  rw [carryOut] at h ⊢
  split at h
  · next s' name hrun =>
    obtain ⟨schema, hschema⟩ := Operation.schema?_of_session (congrArg Prod.snd hrun)
    rw [hrun] at hschema
    rw [hschema] at h
    exact absurd h (Response.not_isRejection_done _)
  · next s' reply hreply hrun =>
    have hblank := isBlank_of_respond hreply h
    have hstore := Operation.store_of_isBlank (congrArg Prod.snd hrun) hblank
    rwa [hrun] at hstore
  · next s' names known hrun =>
    have hstore := Operation.store_of_unknownTables hdocument (congrArg Prod.snd hrun)
    rwa [hrun] at hstore
  · exact absurd h Response.not_isRejection_failure

/-- **A request that leads to a rejection,** wherever it leads, leaves the store as it was. -/
theorem store_of_follow (hdocument : SparesTables v.surroundings.document) {r : Request}
    {route : Route} (h : (v.follow s r route).2.IsRejection) : (v.follow s r route).1 = s := by
  cases route with
  | nowhere => rfl
  | wrongMethod => rfl
  | endpoint e =>
    rw [follow, serve] at h ⊢
    split at h
    · rfl
    · rfl
    · rfl
    · exact store_of_carryOut hdocument h

/-- **What one request keeps:** a request that is rejected leaves the store as it was. -/
theorem store_of_step (hdocument : SparesTables v.surroundings.document) {r : Request}
    (h : (v.step s r).2.IsRejection) : (v.step s r).1 = s := by
  rw [step] at h ⊢
  generalize Route.find _ _ = route at h ⊢
  exact store_of_follow hdocument h

/-- The store after requests, one after another. -/
def after (v : Server) (s : Store) (requests : List Request) : Store :=
  requests.foldl (fun s r => (v.step s r).1) s

/-- The store after requests is the one after the first, and then after the others. -/
theorem after_cons (r : Request) (rs : List Request) :
    v.after s (r :: rs) = v.after (v.step s r).1 rs :=
  List.foldl_cons ..

/-- Those of the requests, one after another, that are not rejected. -/
def accepted (v : Server) : Store → List Request → List Request
  | _, [] => []
  | s, r :: rs =>
    if (v.step s r).2.IsRejection then accepted v (v.step s r).1 rs
    else r :: accepted v (v.step s r).1 rs

/-- **What a run keeps:** without the requests that are rejected, it comes to the same store, and
the others are answered the same. By induction on the requests. -/
theorem run_accepted (hdocument : SparesTables v.surroundings.document) (requests : List Request) :
    v.after s (v.accepted s requests) = v.after s requests ∧
      v.responses s (v.accepted s requests) =
        (v.responses s requests).filter fun response => ¬ response.IsRejection := by
  induction requests generalizing s with
  | nil => exact ⟨rfl, rfl⟩
  | cons r rs ih =>
    obtain ⟨hafter, hresponses⟩ := ih (s := (v.step s r).1)
    rw [accepted, responses]
    by_cases h : (v.step s r).2.IsRejection
    · have hstore := store_of_step hdocument h
      rw [if_pos h, List.filter_cons_of_neg (by simpa using h)]
      rw [hstore] at hafter hresponses ⊢
      refine ⟨hafter.trans ?_, hresponses⟩
      rw [after_cons, hstore]
    · rw [if_neg h, List.filter_cons_of_pos (by simpa using h), responses, hresponses]
      refine ⟨?_, rfl⟩
      rw [after_cons, after_cons, hafter]

/-- **Rejections leave no trace.** Whatever the configuration file holds, a request that is rejected
leaves any store as it was. So a run comes to the same store without the requests that are rejected,
and the other requests are answered the same. -/
theorem rejections_leave_no_trace (v : Server) (reader : Text → Except Yaml.Failure Value)
    (file : Option Text) (hdocument : v.surroundings.document = Config.load reader file) :
    (∀ (s : Store) (r : Request), (v.step s r).2.IsRejection → (v.step s r).1 = s) ∧
      ∀ requests : List Request,
        v.after {} (v.accepted {} requests) = v.after {} requests ∧
          v.responses {} (v.accepted {} requests) =
            (v.responses {} requests).filter fun response => ¬ response.IsRejection := by
  have hspares : SparesTables v.surroundings.document := by
    rw [hdocument]
    exact Config.sparesTables_load reader file
  exact ⟨fun _ _ => store_of_step hspares, run_accepted hspares⟩

namespace clerk

/-- A server without a configuration. -/
def server : Server := { surroundings := { document := Config.load Config.read (some "") } }

/-- A request with a JSON body. -/
def send (method target body : Text) : Request :=
  ⟨method, target, [("content-type", "application/json")], body⟩

/-- A session is made and its table selected; in between, four requests are rejected. -/
def requests : List Request :=
  let name := Store.sessionName 1
  [send "POST" "/api/schema/parse" "\x7b\"sql\": \"CREATE TABLE t (x INT);\"\x7d",
    send "POST" "/api/schema/parse" "\x7b\x7d",
    send "POST" ("/api/schema/" ++ name ++ "/generate") "\x7b\"tables\": [\"t\", \"u\"]\x7d",
    send "POST" "/api/schema/nobody/toggle_all" [],
    send "PUT" "/health" [],
    send "POST" ("/api/schema/" ++ name ++ "/toggle_all") []]

/-- The four rejected requests leave the store that the other two make. -/
theorem responses_requests :
    (server.responses {} requests).map Response.status = [200, 422, 400, 404, 405, 200] ∧
      server.after {} (server.accepted {} requests) = server.after {} requests := by
  obtain ⟨-, hrun⟩ := rejections_leave_no_trace server Config.read (some "") rfl
  exact ⟨by decide +kernel, (hrun requests).1⟩

end clerk

end Server
end Tablesmith
