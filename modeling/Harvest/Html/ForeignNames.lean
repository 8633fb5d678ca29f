import Harvest.Html.Builder

/-!
# Names of Other Vocabularies

Tags and attributes are read in lower case. The vocabulary of graphics has names in mixed
case, which are restored here, and some attributes belong to vocabularies of their own.
-/

namespace Harvest.Html

/-- The elements of graphics in mixed case. -/
def graphicsElements : List String :=
  ["altGlyph", "altGlyphDef", "altGlyphItem", "animateColor", "animateMotion",
    "animateTransform", "clipPath", "feBlend", "feColorMatrix", "feComponentTransfer",
    "feComposite", "feConvolveMatrix", "feDiffuseLighting", "feDisplacementMap",
    "feDistantLight", "feDropShadow", "feFlood", "feFuncA", "feFuncB", "feFuncG", "feFuncR",
    "feGaussianBlur", "feImage", "feMerge", "feMergeNode", "feMorphology", "feOffset",
    "fePointLight", "feSpecularLighting", "feSpotLight", "feTile", "feTurbulence",
    "foreignObject", "glyphRef", "linearGradient", "radialGradient", "textPath"]

/-- The attributes of graphics in mixed case. -/
def graphicsAttributes : List String :=
  ["attributeName", "attributeType", "baseFrequency", "baseProfile", "calcMode",
    "clipPathUnits", "diffuseConstant", "edgeMode", "filterUnits", "glyphRef",
    "gradientTransform", "gradientUnits", "kernelMatrix", "kernelUnitLength", "keyPoints",
    "keySplines", "keyTimes", "lengthAdjust", "limitingConeAngle", "markerHeight",
    "markerUnits", "markerWidth", "maskContentUnits", "maskUnits", "numOctaves", "pathLength",
    "patternContentUnits", "patternTransform", "patternUnits", "pointsAtX", "pointsAtY",
    "pointsAtZ", "preserveAlpha", "preserveAspectRatio", "primitiveUnits", "refX", "refY",
    "repeatCount", "repeatDur", "requiredExtensions", "requiredFeatures", "specularConstant",
    "specularExponent", "spreadMethod", "startOffset", "stdDeviation", "stitchTiles",
    "surfaceScale", "systemLanguage", "tableValues", "targetX", "targetY", "textLength",
    "viewBox", "viewTarget", "xChannelSelector", "yChannelSelector", "zoomAndPan"]

/-- The name in `names` that differs from a lower case name in case only. -/
def restoreCase (names : List String) (name : String) : String :=
  (names.find? fun n => n.toLower = name).getD name

/-- The attributes of links. -/
def linkAttributes : List String :=
  ["actuate", "arcrole", "href", "role", "show", "title", "type"]

/-- The attributes that every vocabulary shares. -/
def sharedAttributes : List String :=
  ["base", "lang", "space"]

/-- The name of an attribute in an element of another vocabulary. -/
def foreignAttributeName (space : Namespace) (name : String) : Name :=
  let name := match space with
    | .svg => restoreCase graphicsAttributes name
    | .mathml => restoreCase ["definitionURL"] name
    | _ => name
  if name = "xmlns" then ⟨.xmlns, name⟩
  else if name = "xmlns:xlink" then ⟨.xmlns, "xlink"⟩
  else if linkAttributes.any fun a => name = "xlink:" ++ a then
    ⟨.xlink, String.ofList (name.toList.drop 6)⟩
  else if sharedAttributes.any fun a => name = "xml:" ++ a then
    ⟨.xml, String.ofList (name.toList.drop 4)⟩
  else ⟨.none, name⟩

/-- The attributes of a tag as attributes of an element of another vocabulary. -/
def foreignAttributes (space : Namespace) (attributes : List (String × String)) :
    List Attribute :=
  attributes.map fun a => ⟨foreignAttributeName space a.1, a.2⟩

end Harvest.Html
