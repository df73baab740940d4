/-!
The messages that are built in, one table for each language. Every table has the same keys: the names of
the rules and of the three findings about the shape of a payload.
-/

namespace Attest

namespace Catalog

/-- Templates by key. -/
abbrev Table := List (String × String)

def english : Table :=
  [("required", "is required"),
    ("required_if", "is required when {0} is {1}"),
    ("required_unless", "is required unless {0} is {1}"),
    ("required_with", "is required when {0} is present"),
    ("required_without", "is required when {0} is absent"),
    ("not_null", "must not be null"),
    ("not_blank", "must not be blank"),
    ("min_length", "must be at least {0} characters long"),
    ("max_length", "must be at most {0} characters long"),
    ("length", "must be between {0} and {1} characters long"),
    ("starts_with", "must start with {0}"),
    ("ends_with", "must end with {0}"),
    ("contains", "must contain {0}"),
    ("lowercase", "must be lowercase"),
    ("uppercase", "must be uppercase"),
    ("one_of", "must be one of: {0}"),
    ("pattern", "must match the pattern {0}"),
    ("email", "invalid email format"),
    ("url", "must be a valid URL"),
    ("uuid", "must be a valid UUID"),
    ("min", "must be at least {0}"),
    ("max", "must be at most {0}"),
    ("range", "must be between {0} and {1}"),
    ("positive", "must be positive"),
    ("negative", "must be negative"),
    ("even", "must be even"),
    ("odd", "must be odd"),
    ("divisible_by", "must be divisible by {0}"),
    ("decimal_places", "must have at most {0} decimal places"),
    ("min_size", "must contain at least {0} items"),
    ("max_size", "must contain at most {0} items"),
    ("not_empty", "must not be empty"),
    ("unique_items", "must not contain duplicates"),
    ("ip_address", "must be a valid {0} address"),
    ("json_string", "must be valid JSON"),
    ("past", "must be in the past"),
    ("future", "must be in the future"),
    ("past_or_present", "must not be in the future"),
    ("future_or_present", "must not be in the past"),
    ("equals_field", "must match {0}"),
    ("not_equals_field", "must differ from {0}"),
    ("custom", "failed the {0} check"),
    ("expected_object", "must be an object"),
    ("expected_array", "must be an array")]

def spanish : Table :=
  [("required", "es obligatorio"),
    ("required_if", "es obligatorio cuando {0} es {1}"),
    ("required_unless", "es obligatorio salvo que {0} sea {1}"),
    ("required_with", "es obligatorio cuando {0} está presente"),
    ("required_without", "es obligatorio cuando falta {0}"),
    ("not_null", "no puede ser nulo"),
    ("not_blank", "no puede estar en blanco"),
    ("min_length", "debe tener al menos {0} caracteres"),
    ("max_length", "debe tener como máximo {0} caracteres"),
    ("length", "debe tener entre {0} y {1} caracteres"),
    ("starts_with", "debe empezar por {0}"),
    ("ends_with", "debe terminar en {0}"),
    ("contains", "debe contener {0}"),
    ("lowercase", "debe estar en minúsculas"),
    ("uppercase", "debe estar en mayúsculas"),
    ("one_of", "debe ser uno de: {0}"),
    ("pattern", "debe coincidir con el patrón {0}"),
    ("email", "formato de correo electrónico no válido"),
    ("url", "debe ser una URL válida"),
    ("uuid", "debe ser un UUID válido"),
    ("min", "debe ser al menos {0}"),
    ("max", "debe ser como máximo {0}"),
    ("range", "debe estar entre {0} y {1}"),
    ("positive", "debe ser positivo"),
    ("negative", "debe ser negativo"),
    ("even", "debe ser par"),
    ("odd", "debe ser impar"),
    ("divisible_by", "debe ser divisible por {0}"),
    ("decimal_places", "debe tener como máximo {0} decimales"),
    ("min_size", "debe contener al menos {0} elementos"),
    ("max_size", "debe contener como máximo {0} elementos"),
    ("not_empty", "no puede estar vacío"),
    ("unique_items", "no puede contener duplicados"),
    ("ip_address", "debe ser una dirección {0} válida"),
    ("json_string", "debe ser JSON válido"),
    ("past", "debe estar en el pasado"),
    ("future", "debe estar en el futuro"),
    ("past_or_present", "no puede estar en el futuro"),
    ("future_or_present", "no puede estar en el pasado"),
    ("equals_field", "debe coincidir con {0}"),
    ("not_equals_field", "debe ser distinto de {0}"),
    ("custom", "no superó la comprobación {0}"),
    ("expected_object", "debe ser un objeto"),
    ("expected_array", "debe ser una lista")]

def german : Table :=
  [("required", "ist erforderlich"),
    ("required_if", "ist erforderlich, wenn {0} gleich {1} ist"),
    ("required_unless", "ist erforderlich, außer {0} ist {1}"),
    ("required_with", "ist erforderlich, wenn {0} angegeben ist"),
    ("required_without", "ist erforderlich, wenn {0} fehlt"),
    ("not_null", "darf nicht null sein"),
    ("not_blank", "darf nicht leer sein"),
    ("min_length", "muss mindestens {0} Zeichen lang sein"),
    ("max_length", "darf höchstens {0} Zeichen lang sein"),
    ("length", "muss zwischen {0} und {1} Zeichen lang sein"),
    ("starts_with", "muss mit {0} beginnen"),
    ("ends_with", "muss mit {0} enden"),
    ("contains", "muss {0} enthalten"),
    ("lowercase", "muss kleingeschrieben sein"),
    ("uppercase", "muss großgeschrieben sein"),
    ("one_of", "muss einer der folgenden Werte sein: {0}"),
    ("pattern", "muss dem Muster {0} entsprechen"),
    ("email", "ungültiges E-Mail-Format"),
    ("url", "muss eine gültige URL sein"),
    ("uuid", "muss eine gültige UUID sein"),
    ("min", "muss mindestens {0} sein"),
    ("max", "darf höchstens {0} sein"),
    ("range", "muss zwischen {0} und {1} liegen"),
    ("positive", "muss positiv sein"),
    ("negative", "muss negativ sein"),
    ("even", "muss gerade sein"),
    ("odd", "muss ungerade sein"),
    ("divisible_by", "muss durch {0} teilbar sein"),
    ("decimal_places", "darf höchstens {0} Nachkommastellen haben"),
    ("min_size", "muss mindestens {0} Elemente enthalten"),
    ("max_size", "darf höchstens {0} Elemente enthalten"),
    ("not_empty", "darf nicht leer sein"),
    ("unique_items", "darf keine Duplikate enthalten"),
    ("ip_address", "muss eine gültige {0}-Adresse sein"),
    ("json_string", "muss gültiges JSON sein"),
    ("past", "muss in der Vergangenheit liegen"),
    ("future", "muss in der Zukunft liegen"),
    ("past_or_present", "darf nicht in der Zukunft liegen"),
    ("future_or_present", "darf nicht in der Vergangenheit liegen"),
    ("equals_field", "muss mit {0} übereinstimmen"),
    ("not_equals_field", "muss sich von {0} unterscheiden"),
    ("custom", "hat die Prüfung {0} nicht bestanden"),
    ("expected_object", "muss ein Objekt sein"),
    ("expected_array", "muss eine Liste sein")]

/-- The tables with the tags of their locales. -/
def tables : List (String × Table) :=
  [("en", english), ("es", spanish), ("de", german)]

end Catalog

end Attest
