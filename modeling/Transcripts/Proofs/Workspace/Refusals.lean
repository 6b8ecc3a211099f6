/-
  Transcripts/Proofs/Workspace/Refusals.lean
  ==========================================
  **A call that is refused has written nothing.**

  A call may look at several stores, and run a search, before it is refused, and what
  it has written by then stays.  Each call turns out to end in one of two ways: with
  all that it writes, or refused with the workspace as it was.  So the calls amount to
  the operations that give either a new workspace or a fault, and what is shown of
  these holds of the calls.

  The case to look at is the removal of a legal reference.  It writes before its check:
  the registry has been asked to remove the reference when its answer decides whether
  the call is refused.  That is right because a registry that answers no has not
  changed.
-/
import Transcripts.Proofs.Workspace.Searching
import Transcripts.Workspace.Call

namespace Transcripts

open Transcripts.Identity
open Transcripts.Search
open Transcripts.Text

/-! ### Changes that end with all they write or with nothing written -/

namespace Steps

variable {ε ε' σ τ α β : Type}

/-- The end of a change with an outcome: all is written, or nothing is. -/
def settled (s : σ) : Except ε (σ × α) → EStateM.Result ε σ α
  | .ok (s', answer) => .ok answer s'
  | .error fault => .error fault s

/-- The state that a change ends in, refused or not. -/
def stateOf : EStateM.Result ε σ α → σ
  | .ok _ s => s
  | .error _ s => s

def fault? : EStateM.Result ε σ α → Option ε
  | .ok _ _ => none
  | .error fault _ => some fault

theorem exists_of_fault? {result : EStateM.Result ε σ α} {fault : ε} (h : fault? result = some fault) :
    ∃ s, result = .error fault s := by
  cases result with
  | ok answer s => simp [fault?] at h
  | error fault' s =>
    obtain rfl := Option.some.inj h
    exact ⟨s, rfl⟩

theorem state_of_refused {s s' : σ} {fault : ε} {outcome : Except ε (σ × α)}
    (h : settled s outcome = .error fault s') : s' = s := by
  cases outcome with
  | ok r => simp [settled] at h
  | error fault' => exact (EStateM.Result.error.inj h).2.symm

/-- Writing a part back as it was read makes no difference, so a change of a part
    writes all or nothing of the whole where it does so of the part. -/
theorem part_settled (part : Part σ τ) (fault : ε → ε') {change : Steps ε τ α} {s : σ}
    {outcome : Except ε (τ × α)} (h : change (part.read s) = settled (part.read s) outcome) :
    part.change fault change s =
      settled s ((outcome.mapError fault).map fun r => (part.write s r.1, r.2)) := by
  rw [Part.change, h]
  cases outcome with
  | ok r => rfl
  | error e => exact congrArg (EStateM.Result.error (fault e)) (part.write_read s)

theorem get_bind (f : σ → Steps ε σ β) (s : σ) : (get >>= f) s = f s s := rfl

theorem bind_of_ok {x : Steps ε σ α} {s s' : σ} {a : α} (h : x s = .ok a s') (f : α → Steps ε σ β) :
    (x >>= f) s = f a s' := by
  show EStateM.bind x f s = f a s'
  rw [EStateM.bind, h]

theorem bind_of_error {x : Steps ε σ α} {s s' : σ} {fault : ε} (h : x s = .error fault s')
    (f : α → Steps ε σ β) : (x >>= f) s = .error fault s' := by
  show EStateM.bind x f s = .error fault s'
  rw [EStateM.bind, h]

end Steps

open Steps

/-! ### The stores -/

theorem Identity.AliasMap.Call.merge_settled (raws : List String) (display : String) (m : AliasMap) :
    Call.merge raws display m = settled m ((m.merge raws display).map fun m' => (m', m')) := by
  simp only [Call.merge, AliasMap.merge]
  split
  · rfl
  · split
    · rfl
    · rfl

namespace TagStore.Call

theorem create_settled (stamp : Stamp) (name : String) (sessionIds : List String)
    (description : Option String) (fromSelection : Bool) (store : TagStore) :
    create stamp name sessionIds description fromSelection store =
      settled store (store.create stamp name sessionIds description fromSelection) := by
  rw [create, TagStore.create]
  split
  · rfl
  · rfl

theorem rename_settled (id name : String) (store : TagStore) :
    rename id name store = settled store (store.rename id name) := by
  rw [rename, TagStore.rename]
  split
  · rfl
  · rw [get_bind]
    cases store.get? id with
    | none => rfl
    | some tag => rfl

end TagStore.Call

namespace LegalRegistry.Call

theorem add_settled (freshId : String) (category : LegalCategory) (label : String)
    (description : Option String) (registry : LegalRegistry) :
    add freshId category label description registry =
      settled registry (registry.add freshId category label description) := by
  rw [add, LegalRegistry.add]
  split
  · rfl
  · rfl

theorem setStatus_settled (id : String) (status : LegalStatus) (registry : LegalRegistry) :
    setStatus id status registry = settled registry (registry.setStatus id status) := by
  rw [setStatus, LegalRegistry.setStatus, get_bind]
  cases Keyed.get? registry id with
  | none => rfl
  | some ref => rfl

/-- A registry that has not got a reference says so and stays as it was. -/
theorem remove_eq (id : String) (registry : LegalRegistry) :
    remove id registry =
      .ok (registry.remove? id).isSome ((registry.remove? id).getD registry) := by
  rw [remove, remove?, get_bind]
  cases Keyed.has registry id with
  | true => rfl
  | false => rfl

end LegalRegistry.Call

namespace SessionStore.Call

theorem modify_settled (id : String) (change : Session → Session) (store : SessionStore) :
    modify id change store =
      settled store (((store.modify? id change).map Except.ok).getD (.error id)) := by
  rw [modify, modify?, get_bind]
  cases store.get? id with
  | none => rfl
  | some s => rfl

end SessionStore.Call

/-! ### The workspace -/

namespace Workspace

namespace Call

theorem mergeAlias_settled (raws : List String) (display : String) (w : Workspace) :
    mergeAlias raws display w =
      settled w ((w.mergeAlias raws display).map fun w' => (w', w'.aliases)) := by
  have hmerge := part_settled aliasPart WorkspaceFault.merge
    (AliasMap.Call.merge_settled raws display w.aliases)
  rw [mergeAlias, hmerge, Workspace.mergeAlias]
  cases w.aliases.merge raws display with
  | error fault => rfl
  | ok aliases => rfl

theorem tag_settled {change : Steps TagFault TagStore Tag} {w : Workspace}
    {outcome : Except TagFault (TagStore × Tag)} (h : change w.tags = settled w.tags outcome) :
    tagPart.change WorkspaceFault.tag change w =
      settled w (outcome.mapError WorkspaceFault.tag >>= fun r => pure ({ w with tags := r.1 }, r.2)) := by
  rw [part_settled tagPart _ h]
  cases outcome with
  | error fault => rfl
  | ok r => rfl

/-- A search that is asked for nothing new writes nothing. -/
theorem search_settled (w : Workspace) :
    search {} w = settled w ((w.search.mapError WorkspaceFault.date).map fun ids => (w, ids)) := by
  have hcommit : (modify (·.commit {}) : Call Unit) w = .ok () w := rfl
  rw [search, bind_of_ok hcommit, get_bind]
  cases w.search with
  | error fault => rfl
  | ok ids => rfl

theorem createTag_settled (stamp : TagStore.Stamp) (name : String) (sessionIds : Option (List String))
    (w : Workspace) :
    createTag stamp name sessionIds w = settled w (w.createTag stamp name sessionIds) := by
  have hnamed (ids : List String) (fromSelection : Bool) :=
    tag_settled (TagStore.Call.create_settled stamp name ids none fromSelection w.tags)
  unfold createTag Workspace.createTag
  cases sessionIds with
  | some ids => exact hnamed ids false
  | none =>
    simp only [get_bind]
    by_cases hselection : w.selection.isEmpty
    · simp only [hselection, if_true]
      -- a tag is made only if the search has come to an end, and before that nothing is written
      cases hsearch : w.search with
      | error fault =>
        rw [bind_of_error ((search_settled w).trans (by rw [hsearch]; rfl))]
        rfl
      | ok ids =>
        rw [bind_of_ok ((search_settled w).trans (by rw [hsearch]; rfl))]
        exact hnamed ids false
    · simp only [hselection]
      exact hnamed _ true

theorem renameTag_settled (id name : String) (w : Workspace) :
    renameTag id name w = settled w (w.renameTag id name) :=
  tag_settled (TagStore.Call.rename_settled id name w.tags)

theorem modifySession_settled (id : String) (change : Session → Session) (w : Workspace) :
    sessionPart.change .unknownSession (SessionStore.Call.modify id change) w =
      settled w (w.modifySession id change) := by
  have hmodify := part_settled sessionPart WorkspaceFault.unknownSession
    (SessionStore.Call.modify_settled id change w.sessions)
  rw [hmodify, modifySession]
  cases w.sessions.modify? id change with
  | none => rfl
  | some r => rfl

theorem link_settled (id ref : String) (w : Workspace) : link id ref w = settled w (w.link id ref) := by
  rw [link, Workspace.link, get_bind]
  split
  · exact modifySession_settled id _ w
  · rfl

theorem removeReference_settled (ref : String) (w : Workspace) :
    removeReference ref w = settled w (w.removeReference ref) := by
  have hremoved : legalPart.change WorkspaceFault.legal (LegalRegistry.Call.remove ref) w =
      .ok (w.legal.remove? ref).isSome { w with legal := (w.legal.remove? ref).getD w.legal } := by
    rw [Part.change, LegalRegistry.Call.remove_eq]
    rfl
  rw [removeReference, bind_of_ok hremoved, Workspace.removeReference]
  cases w.legal.remove? ref with
  | none => rfl
  | some legal => rfl

end Call

/-! ### All calls -/

/-- A call of an operation that can be refused. -/
inductive Request where
  | mergeAlias (raws : List String) (display : String)
  | createTag (stamp : TagStore.Stamp) (name : String) (sessionIds : Option (List String))
  | renameTag (id name : String)
  | link (id ref : String)
  | unlink (id ref : String)
  | removeReference (ref : String)
  | addReference (freshId : String) (category : LegalCategory) (label : String)
      (description : Option String)
  | archiveReference (id : String)
  | reviveReference (id : String)

namespace Request

/-- What a call answers if it is not refused. -/
def Answer : Request → Type
  | .mergeAlias .. => AliasMap
  | .createTag .. | .renameTag .. => Tag
  | .link .. | .unlink .. => Session
  | .removeReference .. => Nat
  | .addReference .. | .archiveReference .. | .reviveReference .. => LegalReference

def call : (request : Request) → Call request.Answer
  | .mergeAlias raws display => Call.mergeAlias raws display
  | .createTag stamp name sessionIds => Call.createTag stamp name sessionIds
  | .renameTag id name => Call.renameTag id name
  | .link id ref => Call.link id ref
  | .unlink id ref => Call.unlink id ref
  | .removeReference ref => Call.removeReference ref
  | .addReference id category label description => Call.addReference id category label description
  | .archiveReference id => Call.archiveReference id
  | .reviveReference id => Call.reviveReference id

def operation : Request → Operation
  | .mergeAlias raws display => .edit (.mergeAlias raws display)
  | .createTag stamp name sessionIds => .edit (.createTag stamp name sessionIds)
  | .renameTag id name => .edit (.renameTag id name)
  | .link id ref => .edit (.link id ref)
  | .unlink id ref => .edit (.unlink id ref)
  | .removeReference ref => .edit (.removeReference ref)
  | .addReference id category label description => .addReference id category label description
  | .archiveReference id => .archiveReference id
  | .reviveReference id => .reviveReference id

end Request

theorem stateOf_settled {α : Type} (w : Workspace) (outcome : Except WorkspaceFault (Workspace × α)) :
    stateOf (settled w outcome) = w.orUnchanged (outcome.map (·.1)) := by
  cases outcome with
  | error fault => rfl
  | ok r => rfl

theorem legal_settled {w : Workspace} {change : Steps LegalFault LegalRegistry LegalReference}
    {outcome : Except LegalFault (LegalRegistry × LegalReference)}
    (h : change w.legal = settled w.legal outcome) :
    ∃ outcome', legalPart.change WorkspaceFault.legal change w = settled w outcome' ∧
      w.orUnchanged (outcome'.map (·.1)) = w.withLegal outcome := by
  refine ⟨_, part_settled legalPart _ h, ?_⟩
  cases outcome with
  | error fault => rfl
  | ok r => rfl

/-- Each call ends with all that it writes, which is what the operation gives, or with
    nothing written. -/
theorem call_settled (w : Workspace) (request : Request) :
    ∃ outcome, request.call w = settled w outcome ∧
      w.orUnchanged (outcome.map (·.1)) = w.perform request.operation := by
  cases request with
  | mergeAlias raws display =>
    refine ⟨_, Call.mergeAlias_settled raws display w, ?_⟩
    show w.orUnchanged _ = w.orUnchanged (w.mergeAlias raws display)
    cases w.mergeAlias raws display with
    | error fault => rfl
    | ok w' => rfl
  | createTag stamp name sessionIds => exact ⟨_, Call.createTag_settled stamp name sessionIds w, rfl⟩
  | renameTag id name => exact ⟨_, Call.renameTag_settled id name w, rfl⟩
  | link id ref => exact ⟨_, Call.link_settled id ref w, rfl⟩
  | unlink id ref => exact ⟨_, Call.modifySession_settled id _ w, rfl⟩
  | removeReference ref => exact ⟨_, Call.removeReference_settled ref w, rfl⟩
  | addReference id category label description =>
    exact legal_settled (LegalRegistry.Call.add_settled id category label description w.legal)
  | archiveReference id => exact legal_settled (LegalRegistry.Call.setStatus_settled id .archived w.legal)
  | reviveReference id => exact legal_settled (LegalRegistry.Call.setStatus_settled id .active w.legal)

theorem stateOf_call (w : Workspace) (request : Request) :
    stateOf (request.call w) = w.perform request.operation := by
  obtain ⟨outcome, hcall, hoperation⟩ := call_settled w request
  rw [hcall, stateOf_settled, hoperation]

/-- Calls one after another, refused or not, lead to where their operations lead. -/
theorem run_calls (w : Workspace) (requests : List Request) :
    requests.foldl (fun w request => stateOf (request.call w)) w =
      (requests.map Request.operation).foldl perform w := by
  induction requests generalizing w with
  | nil => rfl
  | cons request requests ih =>
    rw [List.foldl_cons, List.map_cons, List.foldl_cons, stateOf_call]
    exact ih _

/-- **A refused call changes nothing.**  However a call is refused, by a check of its
    own, by a store or by the search that it runs, the workspace is then exactly what it
    was before.  And in every case a call leaves the workspace that its operation
    gives. -/
theorem refused_call_changes_nothing (w : Workspace) (request : Request) :
    (∀ (fault : WorkspaceFault) (w' : Workspace), request.call w = .error fault w' → w' = w) ∧
      stateOf (request.call w) = w.perform request.operation := by
  obtain ⟨outcome, hcall, _⟩ := call_settled w request
  constructor
  · intro fault w' hrefused
    rw [hcall] at hrefused
    exact state_of_refused hrefused
  · exact stateOf_call w request

/-- A workspace with a session whose year is beyond what can be counted, so that its
    search does not come to an end. -/
def endlessWorkspace : Workspace where
  sessions := .ofList [{ call "s1" "912345678" "olá" with date := "1.1.2147483648" }]
  aliases := AliasMap.flatten (.ofPairs [])
  tags := [{ id := "t1", name := "a", timestamp := 0, sessionIds := ["s1"] }]
  legal := .ofList [{ id := "r1", category := .fact, label := "a" }]

/-- Calls that are refused by a check, by a store after another has agreed, and by the
    search. -/
def refusedCalls : List Request :=
  [.createTag ⟨"t2", 0⟩ "late" none, .createTag ⟨"t2", 0⟩ " " (some ["s1"]), .renameTag "t9" "b",
    .mergeAlias ["", ""] "Rui", .link "s9" "r1", .link "s1" "r9", .unlink "s9" "r1",
    .removeReference "r9", .addReference "r2" .fact "" none, .archiveReference "r9"]

theorem refused_calls_change_nothing : Reachable endlessWorkspace ∧
    ∀ request ∈ refusedCalls, ∃ fault, request.call endlessWorkspace = .error fault endlessWorkspace := by
  have hreachable : Reachable endlessWorkspace := .start _ [] _ _ .dateDescending firstLineSpeaker
  refine ⟨hreachable, fun request hrequest => ?_⟩
  have hrefused : ∀ request ∈ refusedCalls, (fault? (request.call endlessWorkspace)).isSome := by
    decide +kernel
  obtain ⟨fault, hfault⟩ := Option.isSome_iff_exists.mp (hrefused request hrequest)
  obtain ⟨w', hcall⟩ := exists_of_fault? hfault
  have hw' := (refused_call_changes_nothing endlessWorkspace request).1 fault w' hcall
  exact ⟨fault, hw' ▸ hcall⟩

end Workspace

end Transcripts
