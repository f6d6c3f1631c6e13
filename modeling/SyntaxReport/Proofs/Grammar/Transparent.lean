import Mathlib.Data.List.Nodup
import SyntaxReport.Dump.Engine
import SyntaxReport.Proofs.Dump.FirstFailure

/-!
# Requests to the grammar cache

A cache is asked for grammars and for parses, one request after another. It holds one grammar for
each language that has been asked for, and nothing else; and all that can be told from its answers,
other than which grammars are one and the same, is what the request gives by itself.

Results:
* `Records.ask`: what the cache holds, after one more request.
* `serve_map_load`: requests of grammars only.
* `shown_serve`: the answers, without regard to the identity of grammars.
* `Records.serial_eq_iff`: which grammars are one and the same.
* `serve_insert_unregistered`: a request that fails leaves no trace.
* `cache_transparent`: all of it, for requests to a cache that was empty at first.
-/

namespace SyntaxReport.GrammarCache

/-- What a cache can be asked for: the grammar of a name, or a parse with it. -/
inductive Request where
  | load (name : Option Text)
  | parse (source : Text) (name : Option Text)

/-- The name that a request gives. -/
def Request.name : Request → Option Text
  | load name | parse _ name => name

/-- The answer to a request. -/
inductive Reply where
  | grammar (result : Except DumpError Grammar)
  | tree (attempt : Attempt Text)

/-- The answer to a request, and the cache behind it. -/
def ask (cache : GrammarCache) (engine : Engine) : Request → GrammarCache × Reply
  | .load name => ((cache.load name).1, .grammar (cache.load name).2)
  | .parse source name =>
    ((cache.parse engine source name).1, .tree (cache.parse engine source name).2)

/-- The answers to some requests, made one after another. -/
def serve (cache : GrammarCache) (engine : Engine) : List Request → List Reply
  | [] => []
  | request :: more =>
    (cache.ask engine request).2 :: (cache.ask engine request).1.serve engine more

/-- The cache behind some requests. -/
def behind (cache : GrammarCache) (engine : Engine) : List Request → GrammarCache
  | [] => cache
  | request :: more => (cache.ask engine request).1.behind engine more

/-- What an answer shows apart from the identity of a grammar: the grammar's module or the tree, or
the failure; and the calls of the engine on the way. -/
def Reply.shown : Reply → Attempt Text
  | grammar result => ⟨result.map fun grammar => grammar.language.grammarModule, [], []⟩
  | tree attempt => attempt

/-- What a request gives by itself: the module of the language with its name, or the tree that the
engine finds in that language. -/
def Request.alone (engine : Engine) : Request → Attempt Text
  | load name => ⟨(Language.find name).map Language.grammarModule, [], []⟩
  | parse source name => parseText engine source name

/-- What a cache holds behind some requests: for each language whose name was given one grammar, and
no others; their serial numbers count from 0 on. -/
structure Records (requests : List Request) (cache : GrammarCache) : Prop where
  serials : cache.loaded.map Grammar.serial = (List.range cache.loaded.length).reverse
  nodup : (cache.loaded.map Grammar.language).Nodup
  mem_iff : ∀ language : Language,
    language ∈ cache.loaded.map Grammar.language ↔ some language.name ∈ requests.map Request.name

variable {cache : GrammarCache} {engine : Engine} {name : Option Text} {grammar : Grammar}
  {language : Language} {error : DumpError} {request : Request}

/-! ## One request -/

/-- A language is found by its name, and by no other. -/
theorem find_eq_ok_iff_name : Language.find name = .ok language ↔ name = some language.name := by
  cases name with
  | none => simp [Language.find]
  | some name => rw [find_eq_ok_iff, Option.some.injEq, eq_comm]

/-- The ways in which loading a grammar ends: the cache afterwards, and the answer. -/
inductive LoadEnd (cache : GrammarCache) (name : Option Text) :
    GrammarCache × Except DumpError Grammar → Prop
  /-- No language has the name. -/
  | unknown {error : DumpError} :
      Language.find name = .error error → LoadEnd cache name (cache, .error error)
  /-- The cache holds the grammar already. -/
  | held {grammar : Grammar} :
      Language.find name = .ok grammar.language → grammar ∈ cache.loaded →
      LoadEnd cache name (cache, .ok grammar)
  /-- The grammar is new. -/
  | loaded {language : Language} :
      Language.find name = .ok language → language ∉ cache.loaded.map Grammar.language →
      LoadEnd cache name
        (⟨⟨language, cache.loaded.length⟩ :: cache.loaded⟩, .ok ⟨language, cache.loaded.length⟩)

/-- Loading a grammar ends in one of these ways. -/
theorem load_ends (cache : GrammarCache) (name : Option Text) :
    LoadEnd cache name (cache.load name) := by
  unfold load
  rcases hfind : Language.find name with error | language
  · exact .unknown hfind
  dsimp only
  rcases hheld : cache.held? language with _ | grammar
  · refine .loaded hfind fun hmem => ?_
    obtain ⟨grammar, hgrammar, rfl⟩ := List.mem_map.mp hmem
    exact List.find?_eq_none.mp hheld grammar hgrammar (beq_self_eq_true _)
  · have hlanguage := List.find?_some hheld
    obtain rfl : grammar.language = language := beq_iff_eq.mp hlanguage
    exact .held hfind (List.mem_of_find?_eq_some hheld)

/-- The grammar that is loaded is that of the language with the name. -/
theorem map_language_load (cache : GrammarCache) (name : Option Text) :
    (cache.load name).2.map Grammar.language = Language.find name := by
  have hend := load_ends cache name
  generalize cache.load name = ended at hend
  cases hend with
  | unknown hfind | held hfind _ | loaded hfind _ => exact hfind.symm

/-- A parse leaves the cache as loading the grammar does, and finds what a parse without a cache
finds. -/
theorem parse_eq (cache : GrammarCache) (engine : Engine) (source : Text) (name : Option Text) :
    cache.parse engine source name = ((cache.load name).1, parseText engine source name) := by
  unfold parse parseText
  rw [← map_language_load cache name]
  rcases cache.load name with ⟨behind, _ | _⟩ <;> rfl

theorem ask_fst (cache : GrammarCache) (engine : Engine) (request : Request) :
    (cache.ask engine request).1 = (cache.load request.name).1 := by
  cases request with
  | load name => rfl
  | parse source name => rw [ask, parse_eq]; rfl

/-- An answer shows what the request gives by itself, whatever the cache holds. -/
theorem shown_ask (cache : GrammarCache) (engine : Engine) (request : Request) :
    (cache.ask engine request).2.shown = request.alone engine := by
  cases request with
  | load name =>
    rw [ask, Reply.shown, Request.alone, ← map_language_load cache name]
    cases (cache.load name).2 <;> rfl
  | parse source name => rw [ask, parse_eq]; rfl

/-- The name is that of no language. -/
def Unregistered (name : Option Text) : Prop :=
  ∀ language : Language, name ≠ some language.name

theorem find_of_unregistered (h : Unregistered name) :
    Language.find name = .error (.unknownLanguage name) := by
  cases name with
  | none => rfl
  | some name => exact find_eq_error_iff.mpr ⟨fun language hname => h language (hname ▸ rfl), rfl⟩

/-- A request that gives no language's name leaves the cache as it was. -/
theorem ask_fst_of_unregistered (h : Unregistered request.name) (cache : GrammarCache)
    (engine : Engine) : (cache.ask engine request).1 = cache := by
  rw [ask_fst, load, find_of_unregistered h]

/-- It fails, and the engine is not called. -/
theorem alone_of_unregistered (h : Unregistered request.name) (engine : Engine) :
    request.alone engine = ⟨.error (.unknownLanguage request.name), [], []⟩ := by
  have hfind := find_of_unregistered h
  cases request with
  | load name =>
    rw [Request.name] at hfind
    rw [Request.alone, hfind]
    rfl
  | parse source name =>
    rw [Request.name] at hfind
    rw [Request.alone, parseText, hfind]
    rfl

/-! ## What the cache holds -/

variable {requests : List Request}

theorem records_empty : Records [] empty where
  serials := rfl
  nodup := List.nodup_nil
  mem_iff _ := by simp [empty]

/-- After one more request, the cache also holds the grammar of the language whose name was
given. -/
theorem Records.ask (h : Records requests cache) (engine : Engine) (request : Request) :
    Records (requests ++ [request]) (cache.ask engine request).1 := by
  rw [ask_fst]
  have hmem (language : Language) : some language.name ∈ (requests ++ [request]).map Request.name ↔
      language ∈ cache.loaded.map Grammar.language ∨ request.name = some language.name := by
    rw [h.mem_iff, List.map_append, List.mem_append, List.map_singleton, List.mem_singleton,
      eq_comm (a := request.name)]
  have hend := load_ends cache request.name
  generalize cache.load request.name = ended at hend
  cases hend with
  | unknown hfind =>
    refine ⟨h.serials, h.nodup, fun language => ?_⟩
    rw [hmem, or_iff_left]
    intro hname
    rw [find_eq_ok_iff_name.mpr hname] at hfind
    cases hfind
  | @held grammar hfind hheld =>
    refine ⟨h.serials, h.nodup, fun language => ?_⟩
    rw [hmem, or_iff_left_of_imp]
    intro hname
    obtain rfl := Except.ok.inj (hfind.symm.trans (find_eq_ok_iff_name.mpr hname))
    exact List.mem_map_of_mem hheld
  | @loaded language hfind hnew =>
    refine ⟨?_, List.nodup_cons.mpr ⟨hnew, h.nodup⟩, fun other => ?_⟩
    · rw [List.map_cons, h.serials, List.length_cons, List.range_succ, List.reverse_append]
      rfl
    · rw [hmem, List.map_cons, List.mem_cons, or_comm, ← find_eq_ok_iff_name, hfind,
        Except.ok.injEq, eq_comm (a := language)]

/-! ## Requests one after another -/

/-- Grammars that are asked for in turn are answered as they are between parses. -/
theorem serve_map_load (cache : GrammarCache) (engine : Engine) (names : List (Option Text)) :
    cache.serve engine (names.map .load) = (cache.loadEach names).map .grammar := by
  induction names generalizing cache with
  | nil => rfl
  | cons name names ih => rw [List.map_cons, serve, ask, ih, loadEach, List.map_cons]

theorem serve_append (cache : GrammarCache) (engine : Engine) (requests more : List Request) :
    cache.serve engine (requests ++ more) =
      cache.serve engine requests ++ (cache.behind engine requests).serve engine more := by
  induction requests generalizing cache with
  | nil => rfl
  | cons request requests ih => rw [List.cons_append, serve, ih, serve, behind, List.cons_append]

theorem length_serve (cache : GrammarCache) (engine : Engine) (requests : List Request) :
    (cache.serve engine requests).length = requests.length := by
  induction requests generalizing cache with
  | nil => rfl
  | cons request requests ih => rw [serve, List.length_cons, ih, List.length_cons]

/-- The answers show what the requests give by themselves. -/
theorem shown_serve (cache : GrammarCache) (engine : Engine) (requests : List Request) :
    (cache.serve engine requests).map Reply.shown = requests.map (Request.alone engine) := by
  induction requests generalizing cache with
  | nil => rfl
  | cons request requests ih => rw [serve, List.map_cons, shown_ask, ih, List.map_cons]

theorem Records.behind {earlier : List Request} (h : Records earlier cache) (engine : Engine)
    (requests : List Request) :
    Records (earlier ++ requests) (cache.behind engine requests) := by
  induction requests generalizing earlier cache with
  | nil => rwa [List.append_nil]
  | cons request requests ih =>
    rw [← List.singleton_append, ← List.append_assoc]
    exact ih (h.ask engine request)

/-- A grammar that is held is held behind any requests. -/
theorem mem_behind (h : grammar ∈ cache.loaded) (engine : Engine) (requests : List Request) :
    grammar ∈ (cache.behind engine requests).loaded := by
  induction requests generalizing cache with
  | nil => exact h
  | cons request requests ih =>
    apply ih
    rw [ask_fst]
    have hend := load_ends cache request.name
    generalize cache.load request.name = ended at hend
    cases hend with
    | unknown _ | held _ _ => exact h
    | loaded _ _ => exact List.mem_cons_of_mem _ h

/-- A grammar that is handed out is of the language with the name, and held behind all requests. -/
theorem mem_of_served
    (h : (.load name, .grammar (.ok grammar)) ∈ requests.zip (cache.serve engine requests)) :
    name = some grammar.language.name ∧ grammar ∈ (cache.behind engine requests).loaded := by
  induction requests generalizing cache with
  | nil => cases h
  | cons request requests ih =>
    rcases List.mem_cons.mp h with hfirst | hlater
    · obtain ⟨rfl, hreply⟩ := Prod.mk.inj hfirst
      have hresult : (cache.load name).2 = .ok grammar := (Reply.grammar.inj hreply).symm
      have hend := load_ends cache name
      have hask : (cache.ask engine (.load name)).1 = (cache.load name).1 := rfl
      suffices hheld : name = some grammar.language.name ∧ grammar ∈ (cache.load name).1.loaded from
        ⟨hheld.1, mem_behind (hask ▸ hheld.2) engine requests⟩
      generalize cache.load name = ended at hend hresult ⊢
      cases hend with
      | unknown _ => cases hresult
      | held hfind hmem =>
        obtain rfl := Except.ok.inj hresult
        exact ⟨find_eq_ok_iff_name.mp hfind, hmem⟩
      | loaded hfind _ =>
        obtain rfl := Except.ok.inj hresult
        exact ⟨find_eq_ok_iff_name.mp hfind, List.mem_cons_self⟩
    · exact ih hlater

/-- Of the grammars that a cache holds, those of one language are one and the same. -/
theorem Records.serial_eq_iff {other : Grammar} (h : Records requests cache)
    (hgrammar : grammar ∈ cache.loaded) (hother : other ∈ cache.loaded) :
    grammar.serial = other.serial ↔ grammar.language = other.language := by
  have hserials : (cache.loaded.map Grammar.serial).Nodup := by
    rw [h.serials, List.nodup_reverse]
    exact List.nodup_range
  constructor
  · intro hserial
    rw [List.inj_on_of_nodup_map hserials hgrammar hother hserial]
  · intro hlanguage
    rw [List.inj_on_of_nodup_map h.nodup hgrammar hother hlanguage]

/-- A request that gives no language's name could as well not have been made. -/
theorem serve_insert_unregistered (h : Unregistered request.name) (cache : GrammarCache)
    (engine : Engine) (front back : List Request) :
    cache.serve engine (front ++ request :: back) =
      cache.serve engine front ++ ((cache.behind engine front).ask engine request).2 ::
        (cache.behind engine front).serve engine back := by
  rw [serve_append, serve, ask_fst_of_unregistered h]

/-- The cache is transparent. Of a cache that was empty at first, let grammars and parses be asked
for, any number of them, under any names and in any order.

* What an answer shows, which is the module of the grammar or the tree, or the failure, and the
  calls of the engine, is what the request gives by itself, without a cache.
* Two grammars that are handed out are one and the same if and only if the same name was given.
* A request that gives no language's name fails and does not call the engine; and the other answers,
  with the identity of their grammars, are as if it had not been made. -/
theorem cache_transparent (engine : Engine) (requests : List Request) :
    let replies := empty.serve engine requests
    replies.map Reply.shown = requests.map (Request.alone engine) ∧
    (∀ name name' grammar grammar',
      (.load name, .grammar (.ok grammar)) ∈ requests.zip replies →
      (.load name', .grammar (.ok grammar')) ∈ requests.zip replies →
        (grammar.serial = grammar'.serial ↔ name = name')) ∧
    ∀ front request back, requests = front ++ request :: back → Unregistered request.name →
      ∃ early reply late, replies = early ++ reply :: late ∧ early.length = front.length ∧
        reply.shown = ⟨.error (.unknownLanguage request.name), [], []⟩ ∧
        empty.serve engine (front ++ back) = early ++ late := by
  intro replies
  refine ⟨shown_serve empty engine requests, fun name name' grammar grammar' h h' => ?_, ?_⟩
  · obtain ⟨rfl, hgrammar⟩ := mem_of_served h
    obtain ⟨rfl, hgrammar'⟩ := mem_of_served h'
    rw [(records_empty.behind engine requests).serial_eq_iff hgrammar hgrammar', Option.some.injEq]
    refine ⟨congrArg Language.name, fun hname => ?_⟩
    have hfind := find_eq_ok_iff_name.mpr (congrArg some hname)
    exact Except.ok.inj ((find_eq_ok_iff_name.mpr rfl).symm.trans hfind)
  · rintro front request back rfl hunregistered
    refine ⟨_, _, _, serve_insert_unregistered hunregistered empty engine front back,
      length_serve empty engine front, ?_, serve_append empty engine front back⟩
    rw [shown_ask, alone_of_unregistered hunregistered]

/-- Two grammars are asked for, one of them again; on the way there is a parse under a name that no
language has, and a request without a name. -/
def mixedRequests : List Request :=
  [.load (some "c".toList), .parse "x".toList (some "ruby".toList), .load (some "python".toList),
    .load none, .load (some "c".toList)]

/-- The grammar of the same name is the same, that of the other is another one, and the parse leaves
no trace: without it, the four other answers are the same. -/
theorem cache_transparent_mixed :
    let engine : Engine := fun _ source => source
    let replies := empty.serve engine mixedRequests
    ∃ first other again : Grammar, ∃ parsed unnamed : Reply,
      replies = [.grammar (.ok first), parsed, .grammar (.ok other), unnamed,
        .grammar (.ok again)] ∧
      first.serial = again.serial ∧ first.serial ≠ other.serial ∧
      parsed.shown = ⟨.error (.unknownLanguage (some "ruby".toList)), [], []⟩ ∧
      empty.serve engine (mixedRequests.eraseIdx 1) =
        [.grammar (.ok first), .grammar (.ok other), unnamed, .grammar (.ok again)] := by
  intro engine replies
  have hreplies : replies = [.grammar (.ok ⟨.c, 0⟩),
      .tree ⟨.error (.unknownLanguage (some "ruby".toList)), [], []⟩, .grammar (.ok ⟨.python, 1⟩),
      .grammar (.error (.unknownLanguage none)), .grammar (.ok ⟨.c, 0⟩)] := by rfl
  have hunregistered : Unregistered (some "ruby".toList) := fun language => by
    cases language <;> decide
  obtain ⟨-, hsame, hremoved⟩ := cache_transparent engine mixedRequests
  change ∀ _ _ _ _, _ ∈ mixedRequests.zip replies → _ ∈ mixedRequests.zip replies → _ at hsame
  rw [hreplies] at hsame
  obtain ⟨early, parsed, late, hsplit, hlength, hshown, hrest⟩ :=
    hremoved [_] (.parse "x".toList (some "ruby".toList)) _ rfl hunregistered
  obtain ⟨first, rfl⟩ := List.length_eq_one_iff.mp hlength
  obtain ⟨rfl, hlate⟩ := List.cons.inj (hreplies.symm.trans hsplit)
  obtain ⟨rfl, rfl⟩ := List.cons.inj hlate
  refine ⟨_, _, _, _, _, hreplies, ?_, ?_, hshown, hrest⟩
  · exact (hsame _ _ _ _ List.mem_cons_self
      (.tail _ (.tail _ (.tail _ (.tail _ (.head _)))))).mpr rfl
  · exact mt (hsame _ _ _ _ List.mem_cons_self (.tail _ (.tail _ (.head _)))).mp (by decide)

end SyntaxReport.GrammarCache
