import SpatialColumns.Codec
import SpatialColumns.Column.FixedSizeList
/-! # Codecs of vectors

A value that is a fixed number of scalars is stored as a row of a list column. -/

namespace SpatialColumns.Codec

variable {α : Type}

/-- A codec that stores a value as a row of `n` scalars. -/
def vector (name : String) (type : Primitive) (n builderSize elementSize : Nat)
    (toVector : α → Vector type.Native n) (ofVector : Vector type.Native n → α) : Codec α where
  Builder := FixedSizeListBuilder type n
  name := name
  datatype := .listOf type n
  builderSize := builderSize
  elementSize := elementSize
  withCapacity := .withCapacity
  length := FixedSizeListBuilder.length
  append b value := (.ok (), b.push (value.map toVector))
  finish b := b.finish.map .ok id
  decode column := do
    return (← column.fixedSizeListRows type n (.listOf type n)).map (·.map ofVector)

end SpatialColumns.Codec
