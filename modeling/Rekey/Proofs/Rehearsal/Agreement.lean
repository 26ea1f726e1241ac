import Rekey.Proofs.Campaign.Agreement
import Rekey.Rehearsal.World

/-!
# Rehearsals that agree

When two interferences agree on what to make fail and on what they have seen, the steps they stand
before agree as well. So over worlds that are related the providers and the object storages of
rehearsals agree if the parts they work on are the same and can be replaced together.
-/

namespace Rekey.Rehearsal

variable {φ φ' α β ε : Type} {W : World φ → World φ' → Prop} {i : Interference φ}
  {i' : Interference φ'} {point : Point} {path : Option String}

/-- A step that may be made to fail agrees with one that is made to fail alike. -/
theorem agree_hooked {e : ε} {act : StateM (World φ) (Except ε α)}
    {act' : StateM (World φ') (Except ε α)}
    (hfails : Agree W (ask (i.fails point path)) (ask (i'.fails point path)))
    (hact : Agree W act act') :
    Agree W (hooked i point path e act) (hooked i' point path e act') := by
  refine .bind hfails fun fails => ?_
  split
  · exact .pure
  · exact hact

/-- So does a step whose success is seen. -/
theorem agree_watched {act : StateM (World φ) (Except ε α)}
    {act' : StateM (World φ') (Except ε α)}
    (hsucceeded : Agree W (ask (i.succeeded point)) (ask (i'.succeeded point)))
    (hact : Agree W act act') : Agree W (watched i point act) (watched i' point act') := by
  refine .bind hact fun r => ?_
  split
  · exact .pure
  · exact .bind hsucceeded fun _ => .pure

/-- Actions on a part of the world agree where the part is the same and can be replaced. -/
theorem agree_lift {p : Part (World φ) β} {p' : Part (World φ') β}
    (hget : ∀ w w', W w w' → p.get w = p'.get w')
    (hset : ∀ w w' b, W w w' → W (p.set b w) (p'.set b w')) (act : StateM β α) :
    Agree W (p.lift act) (p'.lift act) := by
  intro w w' hw
  have hsame : p.lift act w = ((act (p'.get w')).1, p.set (act (p'.get w')).2 w) := by
    rw [← hget w w' hw]
    rfl
  rw [hsame]
  exact ⟨rfl, hset w w' _ hw⟩

/-- The providers of two rehearsals agree where they know the same. -/
theorem provider_agrees (hget : ∀ w w', W w w' → w.provider = w'.provider)
    (hset : ∀ w w' p, W w w' → W { w with provider := p } { w' with provider := p }) :
    Provider.Agrees W provider provider where
  name := rfl
  accountOf _ := agree_lift hget hset _
  createAccount _ := agree_lift hget hset _

/-- The object storages of two rehearsals agree where they hold the same objects. -/
theorem storage_agrees
    (hfails : ∀ point path, Agree W (ask (i.fails point path)) (ask (i'.fails point path)))
    (hsucceeded : ∀ point, Agree W (ask (i.succeeded point)) (ask (i'.succeeded point)))
    (hget : ∀ w w', W w w' → w.objects = w'.objects)
    (hset : ∀ w w' o, W w w' → W { w with objects := o } { w' with objects := o }) :
    (storage i).Agrees W (storage i') where
  contains _ :=
    agree_watched (hsucceeded _) (agree_hooked (hfails _ _) (agree_lift hget hset _))
  copy _ _ :=
    agree_watched (hsucceeded _) (agree_hooked (hfails _ _) (agree_lift hget hset _))
  move _ _ :=
    agree_watched (hsucceeded _) (agree_hooked (hfails _ _) (agree_lift hget hset _))

end Rekey.Rehearsal
