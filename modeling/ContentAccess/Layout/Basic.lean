import ContentAccess.Error

/-!
# Layouts

How a content tree is laid out: where the repository starts, which nodes are
leaf resources and which are containers, and where a leaf resource keeps its
metadata record.
-/

namespace ContentAccess

/-- The layout of a content tree. -/
structure Layout where
  /-- Path at which walks towards the root stop. -/
  root : String
  /-- Type marker of leaf resources. -/
  leafType : String
  /-- Type markers of containers. -/
  containerTypes : List String
  /-- Name of the child of a leaf resource that holds its content. -/
  contentName : String
  /-- Name of the child of the content that holds the metadata record. -/
  metadataName : String
  /-- Format of dates. -/
  dateFormat : String
  deriving DecidableEq, Repr

namespace Layout

/-- The layout of trees that say nothing else. -/
def standard : Layout where
  root := "/content/dam"
  leafType := "dam:Asset"
  containerTypes := ["nt:folder", "sling:Folder", "sling:OrderedFolder"]
  contentName := "jcr:content"
  metadataName := "metadata"
  dateFormat := "%Y-%m-%dT%H:%M:%S%.f%:z"

/-- The names of the fields in written layouts, in order. -/
def fieldNames : List String :=
  ["repository_root", "leaf_type", "container_types", "content_child", "metadata_child",
   "date_format"]

/-- The first thing that makes the layout unusable. -/
def fault? (layout : Layout) : Option LayoutFault :=
  if layout.root.toList.head? ≠ some '/' then some (.relativeRoot layout.root)
  else if layout.leafType.isEmpty then some .missingLeafType
  else if layout.containerTypes.all String.isEmpty then some .missingContainerType
  else if layout.contentName.isEmpty || layout.metadataName.isEmpty then
    some .missingMetadataNames
  else none

/-- The layout, if it can be used. -/
def checked (layout : Layout) : Except AccessError Layout :=
  match layout.fault? with
  | some fault => .error (.invalidLayout fault)
  | none => .ok layout

/-- Reads a layout from its fields in order, each as in the standard layout when
it is missing. -/
def ofFields [Monad m] [MonadExcept Unit m] (text : α → m String)
    (texts : α → m (List String)) : List (Option α) → m Layout
  | [root, leafType, containerTypes, contentName, metadataName, dateFormat] => do
      let textOr (standard : String) (field : Option α) : m String :=
        field.elim (pure standard) text
      return {
        root := ← textOr standard.root root
        leafType := ← textOr standard.leafType leafType
        containerTypes := ← containerTypes.elim (pure standard.containerTypes) texts
        contentName := ← textOr standard.contentName contentName
        metadataName := ← textOr standard.metadataName metadataName
        dateFormat := ← textOr standard.dateFormat dateFormat }
  | _ => throw ()

end Layout
end ContentAccess
