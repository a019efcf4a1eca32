import PolicySearch.Proofs.Client.Names
import PolicySearch.Proofs.Json.LineEnds
/-! Calls of a client that keeps replies, beside those of one that always asks. What is kept under a
name is the reply to the first good request of that name; so the two clients give the same values and
raise the same faults exactly if no two of the paths asked for share a name, as long as every reply can
be kept. One that cannot be is a value for the one client and a fault for the other. -/
namespace PolicySearch
open Text (Points)

inductive Inquiry where
  | listing
  | documents (branch kind : String)
  deriving DecidableEq, Repr

def Inquiry.path : Inquiry → String
  | listing => Client.listingPath
  | documents branch kind => Client.documentsPath branch kind

/- No reply has a text that cannot be written. -/
def Web.Whole (web : Web) : Prop := ∀ url r, web url = .response r → r.body.Whole

namespace Client
open Cache (nameOf Openable fill)

def perform (c : Client) (web : Web) (t : Trail) : Inquiry → Except Fault Json × Trail
  | .listing => c.listBranches web t
  | .documents branch kind => c.fetchDocuments web t branch kind

/- What comes of each of some inquiries, one after the other. -/
def results (c : Client) (web : Web) : Trail → List Inquiry → List (Except Fault Json)
  | _, [] => []
  | t, inquiry :: rest =>
    (c.perform web t inquiry).1 :: results c web (c.perform web t inquiry).2 rest

/- The value of the reply to a path, with what is worth keeping of it. -/
def worth (c : Client) (web : Web) (path : String) : Except Fault (Json × Points) :=
  valueOf path (c.url path) (web (c.url path))

def answer (c : Client) (web : Web) (path : String) : Except Fault Json :=
  (c.worth web path).map Prod.fst

/- The file in which the reply to a path is kept. -/
def fileOf (c : Client) (path : String) : String := c.cacheStem.getD "" ++ nameOf path

/- What a request comes to if its reply is to be kept. -/
def asked (c : Client) (web : Web) (path : String) : Except Fault Json :=
  (c.worth web path).bind fun reply => (fill (c.fileOf path) reply.2).1.map fun _ => reply.1

/- What such a request leaves in the file of its path. -/
def left (c : Client) (web : Web) (path : String) : Option String :=
  (c.worth web path).toOption.bind fun reply => (fill (c.fileOf path) reply.2).2

/- What a kept text comes to. -/
def reopened (text : String) : Except Fault Json :=
  reread (String.ofList (Cache.lineFeeds text.toList))

/- What the first request of a name left that left anything. -/
def first (c : Client) (web : Web) (past : List String) (name : String) : Option String :=
  past.findSome? fun path => if nameOf path = name then c.left web path else none

/- What a path is answered with after some others. -/
def served (c : Client) (web : Web) (past : List String) (path : String) : Except Fault Json :=
  (c.first web past (nameOf path)).elim (c.asked web path) reopened

/- What is answered to some paths, one after the other, if others were asked for before them. -/
def recalled (c : Client) (web : Web) : List String → List String → List (Except Fault Json)
  | _, [] => []
  | past, path :: rest => c.served web past path :: recalled c web (past ++ [path]) rest

def OwnNames (paths : List String) : Prop :=
  ∀ path ∈ paths, ∀ other ∈ paths, nameOf path = nameOf other → path = other

/- A good reply to a path has a file to be kept in, and a text that can be written to it. -/
def Keepable (c : Client) (web : Web) (path : String) : Prop :=
  ∀ value text, c.worth web path = .ok (value, text) → Openable (c.fileOf path) ∧ text.Whole

/- The kept texts are what the first requests left. -/
def Kept (c : Client) (web : Web) (past : List String) (cache : Cache) : Prop :=
  ∀ name, cache.lookup name = c.first web past name

variable {c : Client} {web : Web} {t : Trail} {past : List String} {path text name : String}
  {value : Json} {cache : Cache} {body : Points}

theorem performCalls (c : Client) (web : Web) (t : Trail) (inquiry : Inquiry) :
    c.perform web t inquiry = c.call web t inquiry.path := by
  cases inquiry <;> rfl

theorem worthReads (good : c.worth web path = .ok (value, body)) :
    Json.ofText body.shown = .ok value := by
  unfold worth valueOf at good
  split at good
  · split at good
    · cases good
    · rename_i read
      cases good
      exact read
    · cases good
  · cases good
  · cases good

theorem worthWhole (whole : web.Whole) (good : c.worth web path = .ok (value, body)) :
    body.Whole := by
  unfold worth valueOf at good
  split at good
  · rename_i replied
    split at good <;> cases good
    exact whole _ _ replied
  · cases good
  · cases good

/- A text that is kept whole reads as the value that it is kept with. -/
theorem reopenedWhole (good : c.worth web path = .ok (value, text)) : reopened text = .ok value := by
  have read := worthReads good
  rw [Points.shownOfString] at read
  rw [reopened, reread, Json.ofTextFeeds read]
  rfl

/- A request keeps what it leaves, and comes to the value of the reply if all of it is kept. -/
theorem requestKeeps (keeping : c.cacheStem.isSome) (web : Web) (t : Trail) (path : String) :
    (c.request web t path).1 = c.asked web path ∧
      (c.request web t path).2.cache =
        (c.left web path).elim t.cache (t.cache.write (nameOf path)) := by
  obtain ⟨stem, named⟩ := Option.isSome_iff_exists.1 keeping
  have replied : c.worth web path = valueOf path (c.url path) (web (c.url path)) := rfl
  simp only [request, ← replied, asked, left, fileOf, named, Option.getD_some]
  cases c.worth web path with
  | error fault => exact ⟨rfl, rfl⟩
  | ok reply => exact ⟨rfl, rfl⟩

theorem callRecalls (keeping : c.cacheStem.isSome) (web : Web)
    (known : t.cache.lookup (nameOf path) = some text) :
    (c.call web t path).1 = reopened text ∧ (c.call web t path).2.cache = t.cache ∧
      (c.call web t path).2.asked = t.asked := by
  obtain ⟨stem, named⟩ := Option.isSome_iff_exists.1 keeping
  simp only [call, named, Cache.read?, known, Option.map_some]
  exact ⟨rfl, rfl, rfl⟩

theorem callRequests (fresh : t.cache.lookup (nameOf path) = none) :
    c.call web t path = c.request web t path := by
  simp only [call, Cache.read?, fresh, Option.map_none]
  cases c.cacheStem <;> rfl

theorem firstLater (c : Client) (web : Web) (past : List String) (path name : String) :
    c.first web (past ++ [path]) name = (c.first web past name).or
      (if nameOf path = name then c.left web path else none) := by
  rw [first, List.findSome?_append, ← first, List.findSome?_cons, List.findSome?_nil]
  cases (if nameOf path = name then c.left web path else none) <;> rfl

theorem callKept (keeping : c.cacheStem.isSome) (kept : Kept c web past t.cache) (path : String) :
    (c.call web t path).1 = c.served web past path ∧
      Kept c web (past ++ [path]) (c.call web t path).2.cache := by
  have known := kept (nameOf path)
  cases found : c.first web past (nameOf path) with
  | some text =>
    obtain ⟨result, cache, -⟩ := callRecalls keeping web (known.trans found)
    refine ⟨by rw [result, served, found, Option.elim_some], fun name => ?_⟩
    rw [cache, kept, firstLater]
    by_cases same : nameOf path = name
    · rw [← same, found, Option.some_or]
    · rw [if_neg same, Option.or_none]
  | none =>
    have fresh := known.trans found
    obtain ⟨result, cache⟩ := requestKeeps keeping web t path
    rw [callRequests fresh]
    refine ⟨by rw [result, served, found, Option.elim_none], fun name => ?_⟩
    rw [cache, firstLater]
    by_cases same : nameOf path = name
    · rw [← same, found, if_pos rfl, Option.none_or]
      cases c.left web path with
      | none => exact fresh
      | some text => exact Cache.lookupWritten fresh
    · rw [if_neg same, Option.or_none, ← kept]
      cases c.left web path with
      | none => rfl
      | some text => exact Cache.lookupUnwritten text fresh (Ne.symm same)

theorem keptResults (keeping : c.cacheStem.isSome) (inquiries : List Inquiry)
    (kept : Kept c web past t.cache) :
    c.results web t inquiries = c.recalled web past (inquiries.map Inquiry.path) := by
  induction inquiries generalizing past t with
  | nil => rfl
  | cons inquiry rest ih =>
    obtain ⟨result, still⟩ := callKept keeping kept inquiry.path
    rw [results, List.map_cons, recalled, performCalls, result, ih still]

theorem plainResults (plain : c.cacheStem = none) (web : Web) (t : Trail)
    (inquiries : List Inquiry) :
    c.results web t inquiries = (inquiries.map Inquiry.path).map (c.answer web) := by
  induction inquiries generalizing t with
  | nil => rfl
  | cons inquiry rest ih =>
    have result : (c.call web t inquiry.path).1 = c.answer web inquiry.path := by
      simp only [call, plain, request, answer, worth]
      cases valueOf inquiry.path (c.url inquiry.path) (web (c.url inquiry.path)) <;> rfl
    rw [results, performCalls, result, ih]
    rfl

theorem fillDone {file : String} : (fill file body).1 = .ok () ↔ Openable file ∧ body.Whole := by
  by_cases opens : Openable file
  · by_cases whole : body.Whole
    · obtain ⟨s, rfl⟩ := whole
      simp [Cache.fillWhole opens, opens, Points.stringWhole]
    · obtain ⟨message, filled⟩ := Cache.fillHalved opens whole
      simp [filled, whole]
  · simp [Cache.fillUnopened opens, opens]

/- A request that is to be kept comes to what it comes to without that exactly if it can be kept. -/
theorem askedAnswer : c.asked web path = c.answer web path ↔ c.Keepable web path := by
  unfold asked answer Keepable
  cases c.worth web path with
  | error fault => exact ⟨fun _ _ _ => nofun, fun _ => rfl⟩
  | ok reply =>
    have done : (fill (c.fileOf path) reply.2).1.map (fun _ => reply.1) = .ok reply.1 ↔
        (fill (c.fileOf path) reply.2).1 = .ok () := by
      cases (fill (c.fileOf path) reply.2).1 <;> simp [Except.map]
    refine done.trans (fillDone.trans ⟨fun can value text same => ?_, fun can => can _ _ rfl⟩)
    cases same
    exact can

theorem leftReopened (can : c.Keepable web path) (found : c.left web path = some text) :
    reopened text = c.answer web path := by
  unfold left at found
  cases good : c.worth web path with
  | error fault =>
    rw [good] at found
    cases found
  | ok reply =>
    obtain ⟨opens, s, whole⟩ := can _ _ good
    rw [good, Except.toOption, Option.bind_some, whole, Cache.fillWhole opens] at found
    cases found
    rw [reopenedWhole (good.trans (by rw [← whole])), answer, good]
    rfl

theorem firstOf (found : c.first web past name = some text) :
    ∃ earlier ∈ past, nameOf earlier = name ∧ c.left web earlier = some text := by
  obtain ⟨earlier, inside, left⟩ := List.exists_of_findSome?_eq_some found
  obtain ⟨same, left⟩ := Option.ite_none_right_eq_some.1 left
  exact ⟨earlier, inside, same, left⟩

theorem firstAbsent (absent : ∀ path ∈ past, nameOf path ≠ name) : c.first web past name = none := by
  cases found : c.first web past name with
  | none => rfl
  | some text =>
    obtain ⟨earlier, inside, same, -⟩ := firstOf found
    exact absurd same (absent earlier inside)

theorem firstFound {before between : List String}
    (absent : ∀ earlier ∈ before, nameOf earlier ≠ nameOf path) (found : c.left web path = some text) :
    c.first web (before ++ path :: between) (nameOf path) = some text := by
  rw [first, List.findSome?_append, ← first, firstAbsent absent, Option.none_or,
    List.findSome?_cons, if_pos rfl, found]

theorem recalledOwn {paths : List String} (own : OwnNames (past ++ paths))
    (can : ∀ path ∈ past ++ paths, c.Keepable web path) :
    c.recalled web past paths = paths.map (c.answer web) := by
  induction paths generalizing past with
  | nil => rfl
  | cons path rest ih =>
    have whole : past ++ path :: rest = past ++ [path] ++ rest := List.append_cons past path rest
    have inside : path ∈ past ++ path :: rest := by simp
    have itself : c.served web past path = c.answer web path := by
      cases found : c.first web past (nameOf path) with
      | none => rw [served, found, Option.elim_none, askedAnswer.2 (can path inside)]
      | some text =>
        obtain ⟨earlier, before, same, left⟩ := firstOf found
        obtain rfl := own earlier (List.mem_append_left _ before) path inside same
        rw [served, found, Option.elim_some, leftReopened (can _ inside) left]
    rw [recalled, itself, ih (whole ▸ own) (whole ▸ can), List.map_cons]

theorem recalledAt {paths before after : List String}
    (same : c.recalled web past paths = paths.map (c.answer web))
    (split : paths = before ++ path :: after) :
    c.served web (past ++ before) path = c.answer web path := by
  induction before generalizing past paths with
  | nil =>
    rw [split, List.nil_append, recalled, List.map_cons] at same
    rw [List.append_nil]
    exact (List.cons.inj same).1
  | cons head before ih =>
    rw [split, List.cons_append, recalled, List.map_cons] at same
    rw [List.append_cons past head before]
    exact ih (List.cons.inj same).2 rfl

/- A path that is answered as without a cache, when it is asked for first, can be kept. -/
theorem keepableOwn {paths : List String} (own : OwnNames paths)
    (same : c.recalled web [] paths = paths.map (c.answer web)) :
    ∀ path ∈ paths, c.Keepable web path := by
  intro path inside
  obtain ⟨before, after, split, fresh⟩ := List.eq_append_cons_of_mem inside
  have absent : ∀ earlier ∈ before, nameOf earlier ≠ nameOf path := by
    intro earlier early named
    have here : earlier ∈ paths := split ▸ List.mem_append_left _ early
    exact fresh (own earlier here path inside named ▸ early)
  have now := recalledAt same split
  rw [List.nil_append, served, firstAbsent absent, Option.elim_none] at now
  exact askedAnswer.1 now

/- What has no file is not found again. -/
theorem firstUnopened (unopened : ¬ Openable (c.fileOf path)) (past : List String) :
    c.first web past (nameOf path) = none := by
  cases found : c.first web past (nameOf path) with
  | none => rfl
  | some text =>
    obtain ⟨earlier, -, same, left⟩ := firstOf found
    have shut : ¬ Openable (c.fileOf earlier) := by rwa [fileOf, same, ← fileOf]
    unfold Client.left at left
    simp [Cache.fillUnopened shut] at left

/- A service that says of each address whether it is the given one. -/
def telling (url : String) : Web := fun asked =>
  .response { body := if asked = url then "true" else "false" }

theorem tellingWhole (url : String) : (telling url).Whole := by
  intro asked r replied
  obtain rfl := Reply.response.inj replied
  by_cases same : asked = url
  · exact ⟨"true", by rw [if_pos same]⟩
  · exact ⟨"false", by rw [if_neg same]⟩

theorem worthTold (c : Client) (url path : String) :
    ∃ text : String, c.worth (telling url) path = .ok (.bool (c.url path == url), text) := by
  have unrefused (body : Points) (asked : String) :
      (({ body := body } : Response).refusal? asked) = none := rfl
  have yes : Json.ofText "true" = .ok (.bool true) := rfl
  have no : Json.ofText "false" = .ok (.bool false) := rfl
  by_cases same : c.url path = url
  · exact ⟨"true", by simp [worth, valueOf, telling, unrefused, yes, same, Points.shownOfString]⟩
  · exact ⟨"false", by simp [worth, valueOf, telling, unrefused, no, same, Points.shownOfString]⟩

theorem answerTold (c : Client) (url path : String) :
    c.answer (telling url) path = .ok (.bool (c.url path == url)) := by
  obtain ⟨text, told⟩ := worthTold c url path
  rw [answer, told]
  rfl

/- Each reply is good, so all of the paths have files if they are answered alike. -/
theorem openableTold {paths : List String} {url : String}
    (same : c.recalled (telling url) [] paths = paths.map (c.answer (telling url))) :
    ∀ path ∈ paths, Openable (c.fileOf path) := by
  intro path inside
  refine Decidable.byContradiction fun unopened => ?_
  obtain ⟨before, after, split⟩ := List.append_of_mem inside
  have now := recalledAt same split
  rw [List.nil_append, served, firstUnopened unopened, Option.elim_none, askedAnswer] at now
  obtain ⟨text, told⟩ := worthTold c url path
  exact unopened (now _ _ told).1

/- The first path of a name answers for the others, so they have its address if that does not show. -/
theorem sharedAddress {before after : List String} {head other : String}
    (absent : ∀ earlier ∈ before, nameOf earlier ≠ nameOf head) (opens : Openable (c.fileOf head))
    (same : c.recalled (telling (c.url head)) [] (before ++ head :: after) =
      (before ++ head :: after).map (c.answer (telling (c.url head))))
    (inside : other ∈ before ++ head :: after) (named : nameOf other = nameOf head) :
    c.url other = c.url head := by
  rcases List.mem_append.1 inside with early | late
  · exact absurd named (absent other early)
  · rcases List.mem_cons.1 late with rfl | late
    · rfl
    · obtain ⟨between, rest, rfl⟩ := List.append_of_mem late
      obtain ⟨text, told⟩ := worthTold c (c.url head) head
      have left : c.left (telling (c.url head)) head = some text := by
        rw [Client.left, told, Except.toOption, Option.bind_some, Cache.fillWhole opens]
      have again := recalledAt same (List.append_assoc before (head :: between) (other :: rest)).symm
      rw [List.nil_append, served, named, firstFound absent left, Option.elim_some,
        reopenedWhole told, answerTold] at again
      simpa using again.symm

theorem urlWhole (c : Client) (inquiry : Inquiry) :
    c.url inquiry.path = c.root ++ "/" ++ inquiry.path := by
  cases inquiry with
  | listing => rfl
  | documents branch kind =>
    rw [← String.toList_inj]
    simp [url, Inquiry.path, documentsPath, Text.trimmedStart, Text.trimStart]

theorem pathOfUrl {inquiry other : Inquiry} (same : c.url inquiry.path = c.url other.path) :
    inquiry.path = other.path := by
  rw [urlWhole, urlWhole] at same
  exact String.append_right_inj _ |>.1 same

/- Answered as without a cache, whatever the service holds, no two paths share a name. -/
theorem namesOwn {inquiries : List Inquiry}
    (same : ∀ web : Web, web.Whole → c.recalled web [] (inquiries.map Inquiry.path) =
      (inquiries.map Inquiry.path).map (c.answer web)) :
    OwnNames (inquiries.map Inquiry.path) := by
  intro path inside other others named
  obtain ⟨head, first⟩ := Option.isSome_iff_exists.1 (List.find?_isSome
    (p := fun path => nameOf path == nameOf other) |>.2 ⟨path, inside, beq_iff_eq.2 named⟩)
  obtain ⟨headed, before, after, split, fresh⟩ := List.find?_eq_some_iff_append.1 first
  have shared : nameOf head = nameOf other := beq_iff_eq.1 headed
  have absent : ∀ earlier ∈ before, nameOf earlier ≠ nameOf head := by
    intro earlier early same
    simpa [same, shared] using fresh earlier early
  have told := same (telling (c.url head)) (tellingWhole _)
  have opens := openableTold told head (List.mem_of_find?_eq_some first)
  obtain ⟨inquiry, -, rfl⟩ := List.mem_map.1 inside
  obtain ⟨another, -, rfl⟩ := List.mem_map.1 others
  rw [split] at told inside others
  exact pathOfUrl ((sharedAddress absent opens told inside (named.trans shared.symm)).trans
    (sharedAddress absent opens told others shared.symm).symm)

/- A client that keeps replies is as good as one that does not, whatever whole texts the service holds,
exactly if no two paths share a name and every path has a file. Of any service, and paths that share no
name, it is so exactly if each good reply can be kept. The paths of two branches share a name exactly if
the branches are the same up to a slash for two dashes. -/
theorem cacheTransparent (root stem : String) (inquiries : List Inquiry) :
    let c : Client := ⟨root, some stem⟩
    let paths := inquiries.map Inquiry.path
    let Same (web : Web) : Prop := c.results web {} inquiries = results ⟨root, none⟩ web {} inquiries
    ((∀ web : Web, web.Whole → Same web) ↔
      OwnNames paths ∧ ∀ path ∈ paths, Openable (stem ++ nameOf path)) ∧
    (OwnNames paths → ∀ web, Same web ↔ ∀ path ∈ paths, c.Keepable web path) ∧
    ∀ branch branch' (kind kind' : Kind),
      nameOf (documentsPath branch kind.word) = nameOf (documentsPath branch' kind'.word) ↔
        kind = kind' ∧ Cache.dashed branch = Cache.dashed branch' := by
  intro c paths Same
  have both (web : Web) : Same web ↔ c.recalled web [] paths = paths.map (c.answer web) := by
    have kept : c.results web {} inquiries = c.recalled web [] paths :=
      keptResults rfl inquiries fun _ => rfl
    have plain := plainResults (c := ⟨root, none⟩) rfl web {} inquiries
    rw [show Same web ↔ _ = _ from Iff.rfl, kept, plain]
    rfl
  have keeps (own : OwnNames paths) (web : Web) : Same web ↔ ∀ path ∈ paths, c.Keepable web path :=
    (both web).trans ⟨keepableOwn own, recalledOwn (show OwnNames ([] ++ paths) from own)⟩
  refine ⟨⟨fun same => ?_, fun ⟨own, opens⟩ web whole => ?_⟩, keeps, fun _ _ _ _ => Cache.documentsShare⟩
  · have alike (web : Web) (whole : web.Whole) := (both web).1 (same web whole)
    exact ⟨namesOwn alike, openableTold (alike (telling "") (tellingWhole ""))⟩
  · exact (keeps own web).2 fun path inside value text good => ⟨opens path inside, worthWhole whole good⟩

/- Two branches, one named with two dashes where the other has a slash. -/
theorem sharedName :
    results ⟨"http://localhost:30080/conf/api/v1", some "/tmp/docsearch-cache/cache-"⟩
        (telling "http://localhost:30080/conf/api/v1/configs/a--b/d/aclpolicies/") {}
        [.documents "a--b" "aclpolicies", .documents "a/b" "aclpolicies"] =
      [.ok (.bool true), .ok (.bool true)] ∧
    results ⟨"http://localhost:30080/conf/api/v1", none⟩
        (telling "http://localhost:30080/conf/api/v1/configs/a--b/d/aclpolicies/") {}
        [.documents "a--b" "aclpolicies", .documents "a/b" "aclpolicies"] =
      [.ok (.bool true), .ok (.bool false)] :=
  ⟨rfl, rfl⟩

end Client

end PolicySearch
