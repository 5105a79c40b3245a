import Mathlib.Data.List.Sort
import QueryMind.Lib.Pattern
import QueryMind.Nlu.Models

namespace QueryMind.Nlu
open Lib Lib.Pattern
set_option autoImplicit true

def entitySynonyms : List (String × String) :=
  [("customers", "customer"), ("customer", "customer"), ("clients", "customer"),
    ("client", "customer"), ("buyers", "customer"), ("buyer", "customer"),
    ("shoppers", "customer"), ("shopper", "customer"), ("order items", "order_item"),
    ("order item", "order_item"), ("line items", "order_item"), ("line item", "order_item"),
    ("orders", "order"), ("order", "order"), ("purchases", "order"), ("purchase", "order"),
    ("product categories", "category"), ("product category", "category"),
    ("categories", "category"), ("category", "category"), ("products", "product"),
    ("product", "product"), ("items", "product"), ("item", "product"), ("skus", "product"),
    ("sku", "product"), ("suppliers", "supplier"), ("supplier", "supplier"),
    ("vendors", "supplier"), ("vendor", "supplier"), ("warehouses", "warehouse"),
    ("warehouse", "warehouse"), ("payments", "payment"), ("payment", "payment"),
    ("transactions", "payment"), ("transaction", "payment"), ("shipments", "shipment"),
    ("shipment", "shipment"), ("deliveries", "shipment"), ("delivery", "shipment"),
    ("reviews", "review"), ("review", "review"), ("ratings", "review"), ("rating", "review"),
    ("returns", "return"), ("return", "return"), ("refunds", "return"), ("refund", "return"),
    ("promotions", "promotion"), ("promotion", "promotion"), ("promo codes", "promotion"),
    ("promo code", "promotion"), ("inventory", "inventory"), ("stock", "inventory")]

def dimensionSynonyms : List (String × String) :=
  [("regions", "region"), ("region", "region"), ("countries", "country"), ("country", "country"),
    ("states", "state"), ("state", "state"), ("cities", "city"), ("city", "city"),
    ("customer segment", "customer_segment"), ("customer segments", "customer_segment"),
    ("segments", "customer_segment"), ("segment", "customer_segment"),
    ("sales channel", "sales_channel"), ("sales channels", "sales_channel"),
    ("channels", "sales_channel"), ("channel", "sales_channel"), ("order status", "order_status"),
    ("status", "order_status"), ("payment method", "payment_method"),
    ("payment methods", "payment_method"), ("carriers", "carrier"), ("carrier", "carrier"),
    ("gender", "gender"), ("product name", "product_name")]

def metricSynonyms : List (String × String) :=
  [("total sales", "revenue"), ("gross merchandise value", "revenue"), ("revenue", "revenue"),
    ("sales", "revenue"), ("gmv", "revenue"), ("profit", "profit"), ("margin", "profit"),
    ("average order value", "average_order_value"), ("aov", "average_order_value"),
    ("order value", "order_value"), ("order count", "order_count"),
    ("number of orders", "order_count"), ("quantity sold", "quantity"),
    ("units sold", "quantity"), ("quantity", "quantity"), ("unit price", "price"),
    ("price", "price"), ("cost price", "cost"), ("cost", "cost"),
    ("discount amount", "discount_amount"), ("discount", "discount_amount"),
    ("tax amount", "tax_amount"), ("tax", "tax_amount"), ("shipping cost", "shipping_amount"),
    ("shipping fee", "shipping_amount"), ("return rate", "return_rate"),
    ("average rating", "review_rating"), ("review rating", "review_rating"),
    ("rating", "review_rating"), ("inventory level", "inventory_level"),
    ("stock level", "inventory_level"), ("quantity on hand", "inventory_level"),
    ("lead time", "lead_time")]

def aggregationKeywords : List (String × AggregationType) :=
  [("sum of", .sum), ("total", .sum), ("sum", .sum), ("average", .average), ("avg", .average),
    ("mean", .average), ("count of", .count), ("number of", .count), ("how many", .count),
    ("count", .count), ("minimum", .min), ("lowest", .min), ("smallest", .min),
    ("cheapest", .min), ("min", .min), ("maximum", .max), ("highest", .max), ("largest", .max),
    ("max", .max)]

def blanks : Pattern Unit := plus Text.isSpace

def phrasePattern (w : WordClass) (phrase : String) : Pattern Unit := do
  boundary w
  literal phrase.toList
  boundary w

def byLength (phrases : List (String × α)) : List (String × α) :=
  phrases.insertionSort fun p q => q.1.length ≤ p.1.length

/-- A phrase of a vocabulary, where it stands in the question and as it is written there. -/
structure VocabularyMatch where
  name : String
  position : Nat
  matched : String
  deriving DecidableEq, Repr

def overlaps (s t : Nat × Nat) : Bool := s.1 < t.2 && t.1 < s.2

/-- The first place of a phrase outside of the spans taken already. -/
def firstFree (w : WordClass) (text : List Char) (claimed : List (Nat × Nat)) (phrase : String) :
    Option (Match Unit) :=
  (finditer (phrasePattern w phrase) text).find? fun m => !claimed.any (overlaps m.span)

def findPhrases (w : WordClass) (text : List Char) (claimed : List (Nat × Nat))
    (found : List VocabularyMatch) : List (String × String) → List VocabularyMatch
  | [] => found
  | (phrase, canonical) :: phrases =>
    if found.any fun m => m.name == canonical then findPhrases w text claimed found phrases
    else
      match firstFree w text claimed phrase with
      | some m =>
        findPhrases w text (claimed ++ [m.span])
          (found ++ [⟨canonical, m.span.1, .ofList m.text⟩]) phrases
      | none => findPhrases w text claimed found phrases

/-- `find_vocabulary_matches`, in the order of the text. -/
def findVocabularyMatches (w : WordClass) (text : List Char) (vocabulary : List (String × String)) :
    List VocabularyMatch :=
  (findPhrases w text [] [] (byLength vocabulary)).insertionSort fun m n => m.position ≤ n.position

structure EntityExtractionResult where
  primaryEntity : Option String
  secondaryEntities : List String
  dimensions : List String
  deriving DecidableEq, Repr

def extractEntities (w : WordClass) (question : String) : EntityExtractionResult :=
  let entities := (findVocabularyMatches w question.toList entitySynonyms).map VocabularyMatch.name
  let dimensions := findVocabularyMatches w question.toList dimensionSynonyms
  ⟨entities.head?, entities.tail, dimensions.map VocabularyMatch.name⟩

def aggregationWindow : Nat := 20

/-- The keyword that starts last before a place; of two that start together, the first listed. -/
def findAggregationBefore (w : WordClass) (text : List Char) (position : Nat) :
    Option AggregationType :=
  let windowStart := position - aggregationWindow
  let window := (text.take position).drop windowStart
  let best := aggregationKeywords.foldl (fun best keyword =>
    match search (phrasePattern w keyword.1) window with
    | some m =>
      match best with
      | some b => if b.1 < m.span.1 then some (m.span.1, keyword.2) else some b
      | none => some (m.span.1, keyword.2)
    | none => best) (none : Option (Nat × AggregationType))
  best.map Prod.snd

def extractMetrics (w : WordClass) (question : String) : List MetricExpression :=
  (findVocabularyMatches w question.toList metricSynonyms).map fun m =>
    ⟨m.name, findAggregationBefore w question.toList m.position, m.matched⟩

/-- `_KNOWN_FIELDS`: a later vocabulary takes a phrase over. -/
def knownField (phrase : String) : Option String :=
  (metricSynonyms.lookup phrase).or ((dimensionSynonyms.lookup phrase).or
    (entitySynonyms.lookup phrase))

def knownSuffix : List String → Option String
  | [] => none
  | word :: words => (knownField (" ".intercalate (word :: words))).or (knownSuffix words)

/-- `_resolve_field`: the longest run of last words that is known. -/
def resolveField (candidate : List Char) : Option String := knownSuffix (Text.splitWords candidate)

end QueryMind.Nlu
