import Scout.Proofs.Files.Paths
import Scout.Proofs.Registry.Requests
import Scout.Service.Routes

/-!
# Routes of playbooks

The path of a playbook has the routes of its id, behind those of the fixed word that the id
may be.  One fixed word can be asked for in the way that a playbook is: a request to show the
playbook with that id, also with a line feed behind it, shows all statistics instead.
-/

namespace Scout

open Registry (Desk)

/-! ## Parts of paths -/

namespace Text

theorem splitOn_of_not_mem {separator : Char} {s : String} (h : separator ∉ s.toList) :
    splitOn separator s = [s] := by
  rw [splitOn, splitAt_of_not_mem h]
  simp

theorem splitOn_append {separator : Char} {s : String} (h : separator ∉ s.toList) (rest : String) :
    splitOn separator (s ++ (String.singleton separator ++ rest)) =
      s :: splitOn separator rest := by
  have chars : (s ++ (String.singleton separator ++ rest)).toList =
      s.toList ++ separator :: rest.toList := by simp
  rw [splitOn, chars, splitAt_append h, List.map_cons, String.ofList_toList]
  rfl

end Text

namespace Service

variable {id : String} {r : Request} {d : Desk}

theorem splitOn_playbook (noSlash : '/' ∉ id.toList) :
    Text.splitOn '/' ("/playbooks/" ++ id) = ["", "playbooks", id] := by
  have parts : "/playbooks/" ++ id =
      "" ++ (String.singleton '/' ++ ("playbooks" ++ (String.singleton '/' ++ id))) := by
    apply String.toList_injective
    simp
  rw [parts, Text.splitOn_append (by decide), Text.splitOn_append (by decide),
    Text.splitOn_of_not_mem noSlash]

theorem splitOn_playbook_word {word : String} (noSlash : '/' ∉ id.toList)
    (noSlash' : '/' ∉ word.toList) :
    Text.splitOn '/' ("/playbooks/" ++ id ++ ("/" ++ word)) = ["", "playbooks", id, word] := by
  have parts : "/playbooks/" ++ id ++ ("/" ++ word) = "" ++ (String.singleton '/' ++
      ("playbooks" ++ (String.singleton '/' ++ (id ++ (String.singleton '/' ++ word))))) := by
    apply String.toList_injective
    simp
  rw [parts, Text.splitOn_append (by decide), Text.splitOn_append (by decide),
    Text.splitOn_append noSlash, Text.splitOn_of_not_mem noSlash']

/-! ## Fixed words -/

/-- The id of a playbook that cannot be shown: the path asks for all statistics. -/
def IsReserved (id : String) : Prop :=
  id = "stats" ∨ id = "stats\n"

theorem withoutLineFeed_eq_iff {word : String} (unended : word.toList.getLast? ≠ some '\n') :
    withoutLineFeed id = word ↔ id = word ∨ id = word ++ "\n" := by
  unfold withoutLineFeed
  by_cases feed : id.toList.getLast? = some '\n'
  · have whole : id = String.ofList id.toList.dropLast ++ "\n" := by
      apply String.toList_injective
      rw [String.toList_append, String.toList_ofList]
      exact (List.dropLast_append_getLast? _ feed).symm
    have other : id ≠ word := by
      rintro rfl
      exact unended feed
    rw [if_pos (by simpa using feed), or_iff_right other]
    constructor
    · rintro rfl
      exact whole
    · intro same
      rw [same]
      simp
  · have other : id ≠ word ++ "\n" := by
      rintro rfl
      exact feed (by simp)
    rw [if_neg (by simpa using feed), or_iff_left other]

theorem isReserved_iff : IsReserved id ↔ withoutLineFeed id = "stats" :=
  (withoutLineFeed_eq_iff (by decide)).symm

theorem find?_fixedRoutes_get (word : String) :
    (fixedRoutes word).find? (fun m => m.1 == "GET") =
      if word = "stats" then some ("GET", .allStats) else none := by
  unfold fixedRoutes
  split <;> simp_all

theorem find?_fixedRoutes_delete (word : String) :
    (fixedRoutes word).find? (fun m => m.1 == "DELETE") = none := by
  unfold fixedRoutes
  split <;> simp

/-! ## Routes of a playbook -/

theorem reachable_of_routes {path : String} (h : routesOf (Text.splitOn '/' path) ≠ []) :
    reachable path = routesOf (Text.splitOn '/' path) := by
  unfold reachable
  split
  · next none => exact absurd none h
  · rfl

theorem reachable_playbook (noSlash : '/' ∉ id.toList) (nonempty : id ≠ "") :
    reachable ("/playbooks/" ++ id) = fixedRoutes (withoutLineFeed id) ++
      [("GET", .show_ id), ("PUT", .replace id), ("DELETE", .remove id)] := by
  have routes : routesOf ["", "playbooks", id] = fixedRoutes (withoutLineFeed id) ++
      [("GET", .show_ id), ("PUT", .replace id), ("DELETE", .remove id)] := by
    simp [routesOf, nonempty]
  rw [reachable_of_routes (by rw [splitOn_playbook noSlash, routes]; simp),
    splitOn_playbook noSlash, routes]

theorem route_of_find? {m : String × Route}
    (h : (reachable r.target.path).find? (fun m => m.1 == r.method) = some m) :
    route r = .ok m.2 := by
  unfold route
  split
  · next none =>
    rw [none] at h
    cases h
  · rw [h]

theorem route_create (method : r.method = "POST") (path : r.target.path = "/playbooks") :
    route r = .ok .create := by
  refine route_of_find? (m := ("POST", .create)) ?_
  rw [path, method]
  decide

theorem route_show (noSlash : '/' ∉ id.toList) (nonempty : id ≠ "") (method : r.method = "GET")
    (path : r.target.path = "/playbooks/" ++ id) :
    route r = .ok (if withoutLineFeed id = "stats" then .allStats else .show_ id) := by
  have found : (reachable r.target.path).find? (fun m => m.1 == r.method) =
      some ("GET", if withoutLineFeed id = "stats" then .allStats else .show_ id) := by
    rw [path, method, reachable_playbook noSlash nonempty, List.find?_append,
      find?_fixedRoutes_get]
    split <;> simp
  exact route_of_find? found

theorem route_remove (noSlash : '/' ∉ id.toList) (nonempty : id ≠ "")
    (method : r.method = "DELETE") (path : r.target.path = "/playbooks/" ++ id) :
    route r = .ok (.remove id) := by
  refine route_of_find? (m := ("DELETE", .remove id)) ?_
  rw [path, method, reachable_playbook noSlash nonempty, List.find?_append,
    find?_fixedRoutes_delete]
  simp

theorem route_word {word : String} {route' : Route} (noSlash : '/' ∉ id.toList)
    (noSlash' : '/' ∉ word.toList)
    (routes : routesOf ["", "playbooks", id, word] = [("GET", route')])
    (method : r.method = "GET") (path : r.target.path = "/playbooks/" ++ id ++ ("/" ++ word)) :
    route r = .ok route' := by
  have parts := splitOn_playbook_word noSlash noSlash'
  refine route_of_find? (m := ("GET", route')) ?_
  rw [path, method, reachable_of_routes (by simp [parts, routes]), parts, routes]
  rfl

theorem route_stats (noSlash : '/' ∉ id.toList) (nonempty : id ≠ "") (method : r.method = "GET")
    (path : r.target.path = "/playbooks/" ++ id ++ "/stats") : route r = .ok (.stats id) := by
  have word : withoutLineFeed "stats" = "stats" := by decide
  have tail : "/stats" = "/" ++ "stats" := by decide
  exact route_word noSlash (by decide) (by simp [routesOf, nonempty, word]) method (tail ▸ path)

theorem route_history (noSlash : '/' ∉ id.toList) (nonempty : id ≠ "") (method : r.method = "GET")
    (path : r.target.path = "/playbooks/" ++ id ++ "/history") : route r = .ok (.history id) := by
  have word : withoutLineFeed "history" = "history" := by decide
  have tail : "/history" = "/" ++ "history" := by decide
  exact route_word noSlash (by decide) (by simp [routesOf, nonempty, word]) method (tail ▸ path)

end Service

end Scout
