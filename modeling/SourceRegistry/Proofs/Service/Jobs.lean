import SourceRegistry.UseCases.Service

/-!
# Jobs

A `Job` is a use case that somebody calls, with the stamp for what it makes. Jobs that are done
one after another leave a row of replies: what each was answered and the state it left.
-/

namespace SourceRegistry

structure Job where
  ctx : Context
  stamp : Stamp
  op : Operation

/-- The identifier that a job gives away, which only creating does. -/
def Job.newId? (j : Job) : Option DataSourceId :=
  match j.op with
  | .create _ => some j.stamp.id
  | _ => none

/-- The identifiers that jobs give away do not repeat. -/
def Job.Fresh (jobs : List Job) : Prop := (jobs.filterMap (·.newId?)).Nodup

instance (jobs : List Job) : Decidable (Job.Fresh jobs) :=
  inferInstanceAs (Decidable (List.Nodup _))

theorem Job.newId?_of_create {j : Job} {draft : Draft} (h : j.op = .create draft) :
    j.newId? = some j.stamp.id := by
  simp [Job.newId?, h]

theorem filterMap_cons_toList {α β : Type} (f : α → Option β) (a : α) (l : List α) :
    (a :: l).filterMap f = (f a).toList ++ l.filterMap f := by
  cases h : f a <;> simp [h]

structure Reply (σ : Type) where
  job : Job
  ending : Ending job.op.Answer
  state : σ

namespace UseCases

def reply (u : UseCases σ) (j : Job) (s : σ) : Reply σ :=
  let o := u.perform j.ctx j.stamp j.op s
  ⟨j, o.ending, o.state⟩

def replies (u : UseCases σ) : List Job → σ → List (Reply σ)
  | [], _ => []
  | j :: jobs, s => u.reply j s :: u.replies jobs (u.reply j s).state

def after (u : UseCases σ) (jobs : List Job) (s : σ) : σ :=
  jobs.foldl (fun s j => (u.reply j s).state) s

end UseCases

end SourceRegistry
