import Mathlib.Data.List.Induction
import PolicySearch.Proofs.Client.Transparent
/-! The kept replies of a client over a service that may change or fail between any two calls. A call
that succeeds keeps one text more at most, which reads as its value; so a name that was answered once has
the same answer from then on. A call that fails keeps nothing, unless it has opened a file for a text that
it cannot write: then the file stays there empty, and its name is spoiled for all later calls. -/
namespace PolicySearch
open Text (Points)

/- An inquiry, with what the service holds when it is made. -/
structure Visit where
  web : Web
  inquiry : Inquiry

def Visit.name (v : Visit) : String := Cache.nameOf v.inquiry.path

theorem Cache.writeFresh {cache : Cache} {name : String} (fresh : cache.lookup name = none)
    (text : String) : cache.write name text = cache ++ [(name, text)] := by
  rw [write, fresh]
  rfl

namespace Client
open Cache (Openable)

def visit (c : Client) (t : Trail) (v : Visit) : Except Fault Json × Trail :=
  c.perform v.web t v.inquiry

def visits (c : Client) (t : Trail) (visits : List Visit) : Trail :=
  visits.foldl (fun t v => (c.visit t v).2) t

/- A call is answered with a value, but its text cannot be written to the file that is opened for it. -/
structure Spoils (c : Client) (t : Trail) (v : Visit) : Prop where
  fresh : t.cache.lookup v.name = none
  opens : Openable (c.fileOf v.inquiry.path)
  halved : ∃ value text, c.worth v.web v.inquiry.path = .ok (value, text) ∧ ¬ text.Whole

/- One of some calls spoiled a name. -/
def Spoiled (c : Client) (before : List Visit) (name : String) : Prop :=
  ∃ earlier v rest, before = earlier ++ v :: rest ∧ v.name = name ∧ c.Spoils (c.visits {} earlier) v

/- From some trail on, whatever the service holds, calls of a name ask for nothing and come to the same. -/
def Settled (c : Client) (t : Trail) (name : String) (result : Except Fault Json) : Prop :=
  ∀ (between : List Visit) (later : Visit), later.name = name →
    let u := c.visits t between
    (c.visit u later).1 = result ∧ (c.visit u later).2.asked = u.asked ∧
      (c.visit u later).2.cache = u.cache

def emptyText : Fault := ⟨.json, some "Expecting value: line 1 column 1 (char 0)"⟩

/- The things that a call of a client that keeps replies can do: it answers from a kept text and asks for
nothing; or it fails and keeps nothing; or it spoils its name; or it is answered by the service, and keeps
the reply. -/
inductive Called (c : Client) (t : Trail) (v : Visit) : Except Fault Json × Trail → Prop where
  | recalled {text : String} {result : Except Fault Json} {after : Trail}
      (known : t.cache.lookup v.name = some text) (reads : reopened text = result)
      (cache : after.cache = t.cache) (asked : after.asked = t.asked) : Called c t v (result, after)
  | refused {fault : Fault} {after : Trail} (fresh : t.cache.lookup v.name = none)
      (unspoiled : ¬ c.Spoils t v) (cause : fault.cause ≠ .json) (cache : after.cache = t.cache) :
      Called c t v (.error fault, after)
  | spoiled {fault : Fault} {after : Trail} (spoils : c.Spoils t v) (cause : fault.cause = .encoding)
      (cache : after.cache = t.cache.write v.name "") : Called c t v (.error fault, after)
  | kept {value : Json} {text : String} {after : Trail} (fresh : t.cache.lookup v.name = none)
      (unspoiled : ¬ c.Spoils t v) (reads : reopened text = .ok value)
      (cache : after.cache = t.cache.write v.name text) : Called c t v (.ok value, after)

variable {c : Client} {web : Web} {t after : Trail} {v : Visit} {path name text : String}
  {value : Json} {fault : Fault} {result : Except Fault Json}

theorem ofFaultCause (path : String) (fault : Fault) : (ofFault path fault).cause ≠ .json := by
  unfold ofFault
  split
  · nofun
  · nofun
  · nofun
  · rename_i other _
    exact other

/- A text that is no value is a failed call, as a request that fails is. -/
theorem worthCause (bad : c.worth web path = .error fault) : fault.cause ≠ .json := by
  unfold worth valueOf at bad
  split at bad
  · split at bad <;> cases bad
    · nofun
    · exact ofFaultCause path _
  · cases bad
    nofun
  · cases bad
    exact ofFaultCause path _

theorem spoilsIff {reply : Json × Points} (fresh : t.cache.lookup v.name = none)
    (good : c.worth v.web v.inquiry.path = .ok reply) :
    c.Spoils t v ↔ Openable (c.fileOf v.inquiry.path) ∧ ¬ reply.2.Whole := by
  constructor
  · rintro ⟨-, opens, value, text, same, halved⟩
    cases good.symm.trans same
    exact ⟨opens, halved⟩
  · rintro ⟨opens, halved⟩
    exact ⟨fresh, opens, reply.1, reply.2, good, halved⟩

theorem visitCalled (keeping : c.cacheStem.isSome) (t : Trail) (v : Visit) :
    Called c t v ((c.visit t v).1, (c.visit t v).2) := by
  rw [visit, performCalls]
  cases found : t.cache.lookup v.name with
  | some text =>
    obtain ⟨result, cache, asked⟩ := callRecalls keeping v.web found
    exact .recalled found result.symm cache asked
  | none =>
    obtain ⟨result, cache⟩ := requestKeeps keeping v.web t v.inquiry.path
    rw [callRequests found, result, asked]
    rw [left] at cache
    cases good : c.worth v.web v.inquiry.path with
    | error fault =>
      refine .refused found ?_ (worthCause good) (by rw [cache, good]; rfl)
      rintro ⟨-, -, value, text, other, -⟩
      cases good.symm.trans other
    | ok reply =>
      have spoils := spoilsIff found good
      rw [good, Except.toOption, Option.bind_some] at cache
      rw [Except.bind]
      by_cases opens : Openable (c.fileOf v.inquiry.path)
      · by_cases whole : reply.2.Whole
        · have unspoiled : ¬ c.Spoils t v := fun spoiled => (spoils.1 spoiled).2 whole
          obtain ⟨s, same⟩ := whole
          rw [same, Cache.fillWhole opens] at cache ⊢
          exact .kept found unspoiled (reopenedWhole (good.trans (by rw [← same]))) cache
        · obtain ⟨message, filled⟩ := Cache.fillHalved opens whole
          rw [filled] at cache ⊢
          exact .spoiled (spoils.2 ⟨opens, whole⟩) rfl cache
      · have unspoiled : ¬ c.Spoils t v := fun spoiled => opens spoiled.opens
        rw [Cache.fillUnopened opens] at cache ⊢
        exact .refused found unspoiled (by decide) cache

namespace Called

/- What is kept stays kept. -/
theorem stays (called : Called c t v (result, after)) (known : t.cache.lookup name = some text) :
    after.cache.lookup name = some text := by
  have other (fresh : t.cache.lookup v.name = none) : name ≠ v.name := by
    rintro rfl
    cases fresh.symm.trans known
  cases called with
  | recalled _ _ cache | refused _ _ _ cache => rwa [cache]
  | spoiled spoils _ cache =>
    rwa [cache, Cache.lookupUnwritten _ spoils.fresh (other spoils.fresh)]
  | kept fresh _ _ cache => rwa [cache, Cache.lookupUnwritten _ fresh (other fresh)]

theorem again (called : Called c t v (result, after)) (known : t.cache.lookup v.name = some text) :
    result = reopened text ∧ after.asked = t.asked ∧ after.cache = t.cache := by
  cases called with
  | recalled found reads cache asked =>
    cases found.symm.trans known
    exact ⟨reads.symm, asked, cache⟩
  | refused fresh | kept fresh => cases fresh.symm.trans known
  | spoiled spoils => cases spoils.fresh.symm.trans known

theorem grows (called : Called c t v (.ok value, after)) :
    ((t.cache.lookup v.name).isSome ∧ after.cache = t.cache) ∨
      (t.cache.lookup v.name = none ∧ ∃ text, after.cache = t.cache ++ [(v.name, text)]) := by
  cases called with
  | recalled known _ cache => exact .inl ⟨by rw [known]; rfl, cache⟩
  | kept fresh _ _ cache => exact .inr ⟨fresh, _, cache.trans (Cache.writeFresh fresh _)⟩

theorem spoils (called : Called c t v (result, after)) (spoils : c.Spoils t v) :
    (∃ fault, result = .error fault ∧ fault.cause = .encoding) ∧
      after.cache = t.cache.write v.name "" := by
  cases called with
  | recalled known => cases spoils.fresh.symm.trans known
  | refused _ unspoiled | kept _ unspoiled => exact absurd spoils unspoiled
  | spoiled _ cause cache => exact ⟨⟨_, rfl, cause⟩, cache⟩

/- What is known after a call was known before it, or is what the call left. -/
theorem news (called : Called c t v (result, after)) (known : after.cache.lookup name = some text) :
    t.cache.lookup name = some text ∨ name = v.name ∧
      ((text = "" ∧ c.Spoils t v) ∨ ∃ value, reopened text = .ok value) := by
  have written {left : String} (fresh : t.cache.lookup v.name = none)
      (cache : after.cache = t.cache.write v.name left) :
      t.cache.lookup name = some text ∨ name = v.name ∧ text = left := by
    rw [cache] at known
    by_cases same : name = v.name
    · rw [same, Cache.lookupWritten fresh] at known
      exact .inr ⟨same, (Option.some.inj known).symm⟩
    · exact .inl (Cache.lookupUnwritten left fresh same ▸ known)
  cases called with
  | recalled _ _ cache | refused _ _ _ cache => exact .inl (cache ▸ known)
  | spoiled spoils _ cache =>
    exact (written spoils.fresh cache).imp_right fun ⟨here, empty⟩ => ⟨here, .inl ⟨empty, spoils⟩⟩
  | kept fresh _ reads cache =>
    exact (written fresh cache).imp_right fun ⟨here, same⟩ => ⟨here, .inr ⟨_, same ▸ reads⟩⟩

end Called

theorem visitsStay (keeping : c.cacheStem.isSome) (visits : List Visit)
    (known : t.cache.lookup name = some text) :
    (c.visits t visits).cache.lookup name = some text := by
  induction visits generalizing t with
  | nil => exact known
  | cons v rest ih => exact ih ((visitCalled keeping t v).stays known)

theorem visitsLast (c : Client) (t : Trail) (visits : List Visit) (v : Visit) :
    c.visits t (visits ++ [v]) = (c.visit (c.visits t visits) v).2 := by
  rw [Client.visits, List.foldl_append]
  rfl

theorem settled (keeping : c.cacheStem.isSome) (known : t.cache.lookup name = some text) :
    c.Settled t name (reopened text) := by
  rintro between later rfl
  exact (visitCalled keeping _ later).again (visitsStay keeping between known)

theorem Spoiled.later {before : List Visit} (spoiled : c.Spoiled before name) (v : Visit) :
    c.Spoiled (before ++ [v]) name := by
  obtain ⟨earlier, w, rest, rfl, same, spoils⟩ := spoiled
  exact ⟨earlier, w, rest ++ [v], by rw [List.append_assoc, List.cons_append], same, spoils⟩

/- Of the kept texts only those of spoiled names are no values. -/
theorem keptReads (keeping : c.cacheStem.isSome) {before : List Visit}
    (known : (c.visits {} before).cache.lookup name = some text) :
    (text = "" ∧ c.Spoiled before name) ∨ ∃ value, reopened text = .ok value := by
  induction before using List.reverseRecOn with
  | nil => cases known
  | append_singleton before v ih =>
    rw [visitsLast] at known
    rcases (visitCalled keeping (c.visits {} before) v).news known with
      earlier | ⟨rfl, ⟨empty, spoils⟩ | reads⟩
    · exact (ih earlier).imp_left fun ⟨empty, spoiled⟩ => ⟨empty, spoiled.later v⟩
    · exact .inl ⟨empty, before, v, [], rfl, rfl, spoils⟩
    · exact .inr reads

theorem spoiledKnown (keeping : c.cacheStem.isSome) {before : List Visit}
    (spoiled : c.Spoiled before name) : (c.visits {} before).cache.lookup name = some "" := by
  obtain ⟨earlier, v, rest, rfl, rfl, spoils⟩ := spoiled
  rw [List.append_cons, Client.visits, List.foldl_append]
  refine visitsStay keeping rest ?_
  rw [← Client.visits, visitsLast, ((visitCalled keeping _ v).spoils spoils).2,
    Cache.lookupWritten spoils.fresh]

/- A call that fails, and spoils nothing. -/
theorem Called.fails {before : List Visit} (keeping : c.cacheStem.isSome)
    (called : Called c (c.visits {} before) v (.error fault, after))
    (unspoiled : ¬ c.Spoils (c.visits {} before) v) :
    after.cache = (c.visits {} before).cache ∧ (fault.cause = .json ↔ c.Spoiled before v.name) := by
  have broken (spoiled : c.Spoiled before v.name) : fault = emptyText :=
    Except.error.inj (called.again (spoiledKnown keeping spoiled)).1
  cases called with
  | recalled known reads cache =>
    refine ⟨cache, fun _ => ?_, fun spoiled => by rw [broken spoiled]; rfl⟩
    rcases keptReads keeping known with ⟨-, spoiled⟩ | ⟨value, whole⟩
    · exact spoiled
    · cases whole.symm.trans reads
  | refused _ _ cause cache =>
    exact ⟨cache, fun same => absurd same cause, fun spoiled => by rw [broken spoiled]; rfl⟩
  | spoiled spoils => exact absurd spoils unspoiled

/- A listing with half of a pair in a string. -/
def halved : Web := fun _ => .response { body := "[\"" ++ Text.Point.half 0 :: Points.ofString "\"]" }

end Client

end PolicySearch
