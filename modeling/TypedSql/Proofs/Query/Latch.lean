import TypedSql.Proofs.Schema.Reachable

/-!
# Requests to a lazy query

A lazy query answers requests one after another. Each request brings a registry, and the filter that
would be built for it may be another one each time. As long as no filter compiles, every request
builds and compiles one and gives its error. The first filter that compiles settles the query for
all later requests, which neither build a filter nor use the registry that they bring.

## Main definitions

* `LazyQuery.Request` — a request; `LazyQuery.Reply` — what it leaves.
* `LazyQuery.replies` — the replies to requests that are made one after another.

## Main results

* `LazyQuery.replies_failing` — requests whose filters do not compile.
* `LazyQuery.replies_settled` — requests after a filter has compiled.
* `LazyQuery.replies_latch` — the replies to all requests.
-/

set_option autoImplicit false

namespace TypedSql

namespace LazyQuery

/-- A request, with the filter that would be built for it and the registry that it brings. -/
structure Request where
  filter : Expr
  registry : Registry

/-- What a request leaves: its result, the lazy query, and the registry that it brought. -/
structure Reply where
  result : Except Error Query
  query : LazyQuery
  registry : Registry

/-- What a filter compiles to over a table type, and the registry after it. -/
def Request.compile (t : TableType) (c : Request) : Except Error Query × Registry :=
  Query.compile t c.filter c.registry

/-- Whether the filter does not compile. -/
def Request.Fails (t : TableType) (c : Request) : Prop := ∃ e, (c.compile t).1 = .error e

/-- The reply to one request. -/
def reply (l : LazyQuery) (c : Request) : Reply :=
  let (result, l, r) := l.get (fun _ => c.filter) c.registry
  ⟨result, l, r⟩

/-- The replies to requests that are made one after another. -/
def replies : LazyQuery → List Request → List Reply
  | _, [] => []
  | l, c :: cs => l.reply c :: (l.reply c).query.replies cs

/-- The reply to a request whose filter does not compile, after `earlier` others: the error, and no
query is kept. -/
def failure (t : TableType) (earlier : Nat) (c : Request) : Reply :=
  ⟨(c.compile t).1, { source := t, builds := earlier + 1 }, (c.compile t).2⟩

/-- The reply to a request after a filter has compiled: the query that is kept, and the registry as
it was brought. -/
def settled (t : TableType) (q : Query) (builds : Nat) (c : Request) : Reply :=
  ⟨.ok q, ⟨t, some q, builds⟩, c.registry⟩

variable {t : TableType} {c : Request} {cs : List Request} {q : Query} {r : Registry}

/-! ## One request -/

/-- As long as there is no query, a request whose filter does not compile leaves none. -/
lemma reply_failing (h : c.Fails t) (n : Nat) :
    reply { source := t, builds := n } c = failure t n c := by
  obtain ⟨e, he⟩ := h
  rw [failure, reply, get]
  rw [Request.compile] at he ⊢
  rcases hrun : Query.compile t c.filter c.registry with ⟨result, r⟩
  rw [hrun] at he
  cases he
  rfl

/-- The first filter that compiles gives the query that is kept. -/
lemma reply_compiling (h : c.compile t = (.ok q, r)) (n : Nat) :
    reply { source := t, builds := n } c = ⟨.ok q, ⟨t, some q, n + 1⟩, r⟩ := by
  rw [Request.compile] at h
  simp only [reply, get, h, Except.toOption]

/-- The query that is kept is returned without a change to anything. -/
lemma reply_settled (n : Nat) : reply ⟨t, some q, n⟩ c = settled t q n c := by
  rw [reply, get_compiled rfl, settled]

/-! ## Requests one after another -/

/-- Requests whose filters do not compile build one filter each and give their errors; those that
follow find no query. -/
theorem replies_failing (h : ∀ c ∈ cs, c.Fails t) (later : List Request) (n : Nat) :
    replies { source := t, builds := n } (cs ++ later) =
      cs.mapIdx (fun i c => failure t (n + i) c) ++
        replies { source := t, builds := n + cs.length } later := by
  induction cs generalizing n with
  | nil => rfl
  | cons c cs ih =>
    obtain ⟨hc, hcs⟩ := List.forall_mem_cons.mp h
    have hrest := ih hcs (n + 1)
    simp only [Nat.add_assoc, Nat.add_comm 1] at hrest
    rw [List.cons_append, replies, reply_failing hc, failure, hrest]
    simp [failure, List.mapIdx_cons, Nat.add_assoc]

/-- All requests after a filter has compiled are answered with its query. -/
theorem replies_settled (n : Nat) : replies ⟨t, some q, n⟩ cs = cs.map (settled t q n) := by
  induction cs with
  | nil => rfl
  | cons c cs ih => rw [replies, reply_settled, settled, ih, List.map_cons, settled]

/-- The replies to any requests of a new lazy query. Either no filter compiles: then each request
has built one filter, has given its error and has left no query. Or there is a first filter that
compiles: the requests before it are answered in this way; its own request has built one filter more
and is answered with its query; and so are all later ones, whatever filter would have been built for
them, with neither another build nor a change to the registries that they bring.

*Proof sketch.* One request to a query that is not compiled builds and compiles, and keeps what it
gets only if this is a query; one to a compiled query changes nothing. By induction the requests up
to the first success count their builds, and those after it leave the lazy query as it is. -/
theorem replies_latch (t : TableType) (requests : List Request) :
    ((∀ c ∈ requests, c.Fails t) ∧
      replies { source := t } requests = requests.mapIdx (failure t)) ∨
    ∃ (before : List Request) (c : Request) (later : List Request) (q : Query) (r : Registry),
      requests = before ++ c :: later ∧ (∀ b ∈ before, b.Fails t) ∧ c.compile t = (.ok q, r) ∧
      replies { source := t } requests = before.mapIdx (failure t) ++
        ⟨.ok q, ⟨t, some q, before.length + 1⟩, r⟩ ::
          later.map (settled t q (before.length + 1)) := by
  cases hfirst : requests.find? (fun c => (c.compile t).1.isOk) with
  | none =>
    have hall : ∀ c ∈ requests, c.Fails t := fun c hc =>
      except_isOk_false.mp (Bool.eq_false_iff.mpr (List.find?_eq_none.mp hfirst c hc))
    have hreplies := replies_failing hall [] 0
    simp only [List.append_nil, replies, Nat.zero_add] at hreplies
    exact .inl ⟨hall, hreplies⟩
  | some c =>
    obtain ⟨hok, before, later, rfl, hbefore⟩ := List.find?_eq_some_iff_append.mp hfirst
    have hfail : ∀ b ∈ before, b.Fails t := fun b hb =>
      except_isOk_false.mp (by simpa using hbefore b hb)
    obtain ⟨q, r, hcompile⟩ : ∃ q r, c.compile t = (.ok q, r) := by
      rcases hrun : c.compile t with ⟨e | q, r⟩
      · rw [hrun] at hok
        cases hok
      · exact ⟨q, r, rfl⟩
    refine .inr ⟨before, c, later, q, r, rfl, hfail, hcompile, ?_⟩
    have hreplies := replies_failing hfail (c :: later) 0
    simp only [Nat.zero_add] at hreplies
    rw [hreplies, replies, reply_compiling hcompile, replies_settled]

end LazyQuery

namespace Sample

open LazyQuery (replies)

/-- A filter that is no condition on persons, since they have no shoes. -/
def shod : Expr := .nullTest ⟨"is_not_null"⟩ .isNotNull (Builder.col "shoe")

-- after the filter that compiles, the other one is not built again
example : (replies { source := person } [⟨shod, {}⟩, ⟨owners, {}⟩, ⟨shod, {}⟩]).map
    (fun a => (a.result.isOk, a.query.builds, a.registry.size)) =
      [(false, 1, 1), (true, 2, 2), (true, 2, 0)] := by decide +kernel

end Sample

end TypedSql
