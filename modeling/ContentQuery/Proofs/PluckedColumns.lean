import ContentQuery.Proofs.AnswerFormats

namespace ContentQuery

namespace Post
variable (post : Post) {name : String} {value : Json}

theorem names_fields : post.fields.map Prod.fst = Vocabulary.postProperties := rfl

theorem filled_fields : ∀ field ∈ post.fields, field.2 ≠ .null := by
  simp [fields, natJson, dateJson, Json.int]

theorem isSome_property?_iff :
    (post.property? name).isSome = true ↔ Vocabulary.isPostProperty name = true := by
  have absent := @OrderedMap.lookup_eq_none_iff_not_mem _ name post.fields
  rw [names_fields] at absent
  rw [Option.isSome_iff_ne_none, ne_eq, property?, absent, Classical.not_not,
    Vocabulary.isPostProperty, List.contains_iff_mem]

theorem ne_null_of_property? (held : post.property? name = some value) : value ≠ .null := by
  obtain ⟨before, split⟩ := OrderedMap.exists_slot held
  apply post.filled_fields (name, value)
  rw [split]
  exact List.mem_append_right _ List.mem_cons_self

end Post

namespace Query
variable (query : Query) (shared : Settings)

def listing : Except QueryError Output :=
  (Format.posts.formatter query.store).bind fun formatter => formatter (query.arguments shared)

theorem listing_cases :
    (∃ failure, query.listing shared = .error failure ∧ failure.kind ≠ .validation) ∨
      ∃ posts, query.listing shared = .ok (.posts posts) := by
  cases stored : query.store with
  | none =>
    refine .inl ⟨.noStore .posts, ?_, nofun⟩
    rw [listing, stored]
    rfl
  | some store =>
    have asked : query.listing shared = (store.get (query.arguments shared)).map .posts := by
      rw [listing, stored]
      rfl
    rw [asked, store.get_eq_query]
    rcases store.query_cases (query.arguments shared) with
      ⟨failure, first, failed⟩ | ⟨-, offset, size, -, answered⟩
    · refine .inl ⟨failure, by rw [failed]; rfl, ?_⟩
      rw [first.kind]
      exact nofun
    · exact .inr ⟨_, by rw [answered]; rfl⟩

variable {column : String}

theorem ask_pluck_of_known (known : Vocabulary.isPostProperty column = true) :
    (query.ask shared (.pluck column)).1 =
      (query.listing shared).map fun output => .column (columnOf column output) := by
  have answered : query.answer shared (some .posts) = query.listing shared := rfl
  simp only [ask, pluck, if_pos known, answered]
  cases query.listing shared <;> rfl

theorem ask_pluck_of_unknown (unknown : ¬ Vocabulary.isPostProperty column = true) :
    (query.ask shared (.pluck column)).1 = .error (.unknownColumn column) := by
  simp only [ask, pluck, if_neg unknown]
  rfl

theorem map_columnOf (known : Vocabulary.isPostProperty column = true) (posts : List Post) :
    (columnOf column (.posts posts)).map some = posts.map fun post => post.property? column := by
  change (posts.map fun post => (post.property? column).getD .null).map some = _
  rw [List.map_map]
  apply List.map_congr_left
  intro post _
  obtain ⟨value, held⟩ := Option.isSome_iff_exists.mp (post.isSome_property?_iff.mpr known)
  rw [Function.comp, held, Option.getD_some]

-- A property is there for every post or for none, as the vocabulary says. So a
-- column of a known property fails only with what the posts themselves fail with,
-- whatever else the query was told to answer with. Otherwise it holds the property
-- of each post that is listed, and no null stands in for one.
theorem columns_plucked (column : String) :
    (∀ (post : Post) (name : String),
      (post.property? name).isSome = true ↔ Vocabulary.isPostProperty name = true) ∧
    let answer := (query.ask shared (.pluck column)).1
    ((∃ failure, answer = .error failure ∧ failure.kind = .validation) ↔
      ¬ Vocabulary.isPostProperty column = true) ∧
    (¬ Vocabulary.isPostProperty column = true → answer = .error (.unknownColumn column)) ∧
    (Vocabulary.isPostProperty column = true →
      (∃ failure, query.listing shared = .error failure ∧ answer = .error failure) ∨
      ∃ posts values, query.listing shared = .ok (.posts posts) ∧
        answer = .ok (.column values) ∧
        values.map some = (posts.map fun post => post.property? column) ∧ .null ∉ values) := by
  refine ⟨fun post _ => post.isSome_property?_iff, ?_, query.ask_pluck_of_unknown shared, ?_⟩
  · constructor
    · rintro ⟨failure, failed, validation⟩ known
      rw [query.ask_pluck_of_known shared known] at failed
      rcases query.listing_cases shared with ⟨other, listed, apart⟩ | ⟨posts, listed⟩
      · rw [listed] at failed
        cases failed
        exact apart validation
      · rw [listed] at failed
        cases failed
    · intro unknown
      exact ⟨.unknownColumn column, query.ask_pluck_of_unknown shared unknown, rfl⟩
  · intro known
    have plucked := query.ask_pluck_of_known shared known
    rcases query.listing_cases shared with ⟨failure, listed, -⟩ | ⟨posts, listed⟩
    · exact .inl ⟨failure, listed, by rw [plucked, listed]; rfl⟩
    · have held := map_columnOf known posts
      refine .inr ⟨posts, columnOf column (.posts posts), listed, ?_, held, ?_⟩
      · rw [plucked, listed]
        rfl
      · intro filled
        have shown : some .null ∈ posts.map fun post => post.property? column :=
          held ▸ List.mem_map_of_mem filled
        obtain ⟨post, -, property⟩ := List.mem_map.mp shown
        exact post.ne_null_of_property? property rfl

end Query

namespace Session

theorem titles_plucked :
    ∃ session values,
      Session.run ⟨.initial, .fresh⟩
        [.call (.withStore Store.pages), .call (.setting "return" (.str "count"))] = .ok session ∧
      (session.query.ask session.shared (.pluck "post_title")).1 = .ok (.column values) ∧
      values = [.str "About", .str "News", .str "Contact"] ∧
      (session.query.ask session.shared (.pluck "title")).1 = .error (.unknownColumn "title") := by
  let session : Session := ⟨.initial, { Query.fresh with
    store := some Store.pages
    provider := .layered (.ofList [("return", .str "count")]) }⟩
  obtain ⟨-, -, -, titles⟩ := session.query.columns_plucked session.shared "post_title"
  obtain ⟨-, -, unknown, -⟩ := session.query.columns_plucked session.shared "title"
  have shown : (session.query.listing session.shared).toOption.bind Output.posts? =
      some Store.pages.posts := by
    decide +kernel
  rcases titles (by decide) with ⟨failure, failed, -⟩ | ⟨posts, values, listed, answered, held, -⟩
  · rw [failed] at shown
    cases shown
  · rw [listed] at shown
    cases shown
    refine ⟨session, values, rfl, answered, ?_, unknown (by decide)⟩
    exact (List.map_inj_right fun _ _ => Option.some.inj).mp held

end Session
end ContentQuery
