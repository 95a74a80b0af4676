/-
Hash chains: items of which each is bound to those before it by the digest of a link.

A link is made of its position, the digest of the item, and the digest of the link before it.  The
digest is a parameter, of which nothing is assumed: that two chains are the same is proved up to a
collision, of two contents that were digested for them.

* `HashChain`: the items, the newest first, with all contents that are digested for them;
* `Shows`: a link shows what it is made of;
* `Collides`: two contents of two lists that have one digest;
* `eq_or_collides`: **chains with one head are the same**, or there is a collision.
-/
import Mathlib.Tactic

section HashChain

variable {β δ : Type*}

/-- The items of a chain, the newest first; the contents that are digested for them; and the digest
of the last link. -/
inductive HashChain (digest : β → δ) (IsLink : ℕ → δ → δ → β → Prop) (genesis : δ) :
    List β → List β → δ → Prop
  | nil : HashChain digest IsLink genesis [] [] genesis
  | cons {items contents : List β} {head : δ} {item link : β}
      (hchain : HashChain digest IsLink genesis items contents head)
      (hlink : IsLink (items.length + 1) (digest item) head link) :
      HashChain digest IsLink genesis (item :: items) (link :: item :: contents) (digest link)

/-- A link shows the digests that it is made of. -/
def Shows (IsLink : ℕ → δ → δ → β → Prop) : Prop :=
  ∀ n n' e e' p p' link, IsLink n e p link → IsLink n' e' p' link → e = e' ∧ p = p'

/-- Two different contents, of one list each, that have one digest. -/
def Collides (digest : β → δ) (contents contents' : List β) : Prop :=
  ∃ b ∈ contents, ∃ b' ∈ contents', b ≠ b' ∧ digest b = digest b'

variable {digest : β → δ} {IsLink : ℕ → δ → δ → β → Prop} {genesis : δ}
  {items items' contents contents' : List β} {head : δ}

lemma Collides.mono {l l' : List β} (h : Collides digest contents contents') (hl : contents ⊆ l)
    (hl' : contents' ⊆ l') : Collides digest l l' := by
  obtain ⟨b, hb, b', hb', hne, heq⟩ := h
  exact ⟨b, hl hb, b', hl' hb', hne, heq⟩

namespace HashChain

/-- **Chains with one head are the same**, or there is a collision: a link shows what it is made of,
and no link has the digest that a chain begins with. -/
theorem eq_or_collides (hshows : Shows IsLink) (hgenesis : ∀ b, digest b ≠ genesis)
    (h : HashChain digest IsLink genesis items contents head)
    (h' : HashChain digest IsLink genesis items' contents' head) :
    items = items' ∨ Collides digest contents contents' := by
  generalize hhead : head = head' at h'
  induction h generalizing items' contents' head' with
  | nil =>
      cases h' with
      | nil => exact .inl rfl
      | @cons _ _ _ _ link _ _ => exact absurd hhead.symm (hgenesis link)
  | @cons items contents previous item link hchain hlink ih =>
      cases h' with
      | nil => exact absurd hhead (hgenesis link)
      | @cons items' contents' previous' item' link' hchain' hlink' =>
          by_cases hsame : link = link'
          · subst hsame
            obtain ⟨hdigest, hprevious⟩ := hshows _ _ _ _ _ _ _ hlink hlink'
            by_cases hitem : item = item'
            · rcases ih _ hprevious hchain' with heq | hcollides
              · exact .inl (by rw [hitem, heq])
              · exact .inr (hcollides.mono (by simp) (by simp))
            · exact .inr ⟨item, by simp, item', by simp, hitem, hdigest⟩
          · exact .inr ⟨link, by simp, link', by simp, hsame, hhead⟩

end HashChain

end HashChain
