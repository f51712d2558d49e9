/-! The names of the characters of Unicode 14 that start with the letters from D to L. -/

namespace SolidityAtlas.Text.CharacterNames

/-- The names from D to L in increasing order, each without what it has in common with the one in
front of it. The small letters in front of an entry add up to the length of the common start: `a` is
none, `z` is 25.
-/
def namesDToL : List String :=
  ["aDAGGERg KNIFEhWITH LEFT GUARDmRIGHT GUARDcLET SYMBOLcNCERdGOcRK SHADEgUNGLASSEScSH SYMBOL",
   "fWITH LEFT UPTURNeED LOW LINEhOVERLINEhTRIANGLE-HEADED RIGHTWARDS ARROWcTA LINK ESCAPEbC1c2c3",
   "c4cSbEAF PERSONcCIDUOUS TREEeMAL EXPONENT SYMBOLiSEPARATOR KEY SYMBOLdREASE FONT SIZE SYMBOL",
   "cERcGREE CELSIUShFAHRENHEIThSIGNcLdETEdIVERY TRUCKdTA EQUAL TO",
   "cNTISTRY SYMBOL LIGHT DOWN AND HORIZONTALzr WITH CIRCLEzxTRIANGLEzxWAVExUP AND HORIZONTAL",
   "zp WITH CIRCLEzvTRIANGLEzvWAVExVERTICAL AND BOTTOM LEFTzsRIGHTzlTOP LEFTzpRIGHTzlWAVE",
   "zhWITH CIRCLEzmTRIANGLEcPARTMENT STOREcRELICT HOUSE BUILDINGcSCENDING NODE",
   "dERET CAPITAL LETTER AYxBEExCHEExDEExEFyLyMyNzGyRySzHyTHyWxGAYxHxJEExKAYxLONG AzeHzdEzdIzdOzeO",
   "xOIyWxPEExSHORT AzfHzeEzeIzeOzfOxTEEyHEExVEExWUxYEExZEEyHEEiSMALL LETTER AYvBEEvCHEEvDEEvEFwL",
   "wMwNxGwRwSxHwTHwWvGAYvHvJEEvKAYvLONG AzcHzbEzbIzbOzcOvOIwWvPEEvSHORT AzdHzcEzcIzcOzdOvTEEwHEE",
   "vVEEvWUvYEEvZEEwHEEfTg ISLANDdKTOP COMPUTERiWINDOWcVANAGARI ABBREVIATION SIGNmCUTE ACCENT",
   "lCARETlDANDAmIGIT EIGHTrFIVEsOURrNINErONErSEVENsIXrTHREEsWOrZEROmOUBLE DANDAlGAP FILLER",
   "mRAVE ACCENTlHEADSTROKElJAIN OMlLETTER AtAtItUtWtYsBAtBAtHAsCAuNDRA AzEzOtHAsDAtDAuDAvHAuHAtHA",
   "sEsFAsGAtGAtHAuHAtLOTTAL STOPsHAtEAVY YAsItIsJAtHAtJAsKAtHAuHAsLAtLAuLAsMAuRWARI DDAsNAtGAtNA",
   "uNAtYAsOtEtOEsPAtHAsQAsRAtHAtRAsSAtHAuORT AyEyOtSAsTAtHAtTAuHAsUtEtUuEsVAtOCALIC LzcLzbRzcRsYA",
   "tYAsZAtHAlOMlSIGN ANUSVARArVAGRAHAqCANDRABINDUzc AVAGRAHAzdTHREEzeWOzdVIRAMA",
   "qDOUBLE CANDRABINDU VIRAMAqHIGH SPACING DOTqINVERTED CANDRABINDUqNUKTAqPUSHPIKAqSIDDHAM",
   "rPACING CANDRABINDUqVIRAMAsSARGAmTRESS SIGN ANUDATTAxUDATTAlVOWEL SIGN AAxIxUxWxYwCANDRA E",
   "zeLONG EzeOwEwIxIwOxExOEwPRISHTHAMATRA EwSHORT EzdOwUxExUyEwVOCALIC LzgLzfRzgR",
   "dICE CONTROL FOURpONEpSTRINGpTHREEqWObIAERESISdMETER SIGNeOND OPERATORiSHAPE WITH A DOT INSIDE",
   "iTARGETiWITH BOTTOM HALF BLACKnLEFT HALF BLACKnRIGHT HALF BLACKnTOP HALF BLACKcE FACE-1j2j3j4",
   "j5j6dSEL LOCOMOTIVEcFFERENCE BETWEENcGIT EIGHTl COMMAmFULL STOPgFIVEk COMMAlFULL STOPhOUR",
   "k COMMAlFULL STOPgNINEk COMMAlFULL STOPgONEj COMMAkFULL STOPgSEVENl COMMAmFULL STOPhIXj COMMA",
   "kFULL STOPgTHREEl COMMAmFULL STOPhWOj COMMAkFULL STOPgZEROk COMMAlFULL STOPdRAM FOR EARTH",
   "qLY HEAVENuUMANlGREATER YANGuINlHEAVENLY EARTHmUMAN EARTHlLESSER YANGtINcMENSION ORIGIN",
   "cNGBAT CIRCLED SANS-SERIF DIGIT EIGHTziFIVEzjOURziNINEziONEziSEVENzjIXziTHREEzjWOziZERO",
   "zcNUMBER TENiNEGATIVE CIRCLED DIGIT EIGHTzgFIVEzhOURzgNINEzgONEzgSEVENzhIXzgTHREEzhWO",
   "zNUMBER TENzSANS-SERIF DIGIT EIGHTzrFIVEzsOURzrNINEzrONEzrSEVENzsIXzrTHREEzsWOzrZERO",
   "zlNUMBER TENcRECT CURRENT SYMBOL FORM TWOhHITcSABLED CARePPOINTED BUT RELIEVED FACEnFACE",
   "dCONTINUOUS UNDERLINE SYMBOLdGUISED FACEcTTO MARKcVES AKURU DIGIT EIGHTsFIVEtOURsNINEsONE",
   "sSEVENtIXsTHREEtWOsZEROnOUBLE DANDAmEND OF TEXT MARKmGAP FILLERmINITIAL RAmLETTER AuAtBAuHAtCA",
   "uHAtDAuDAvHAuHAtEtGAuHAtHAtIuItJAtKAuHAtLAuLAtMAtNAuGAuNAuYAtOtPAuHAtRAtSAuHAuSAtTAuHAuTAtUuU",
   "tVAtYAuYAtZAmMEDIAL RAtYAmPREFIXED NASAL SIGNmSIGN ANUSVARArCANDRABINDUrHALANTArNUKTAmVIRAMA",
   "nOWEL SIGN AAyIxExIyIxOxUyUdIDESeNG MASKeSION SIGNkLASHjTIMESdORCE SYMBOLcYA LAMPcZZY FACE",
   "gSYMBOLbLEbNA DOUBLE HELIXbO NOT LITTER SYMBOLcCUMENTi WITH PICTUREoTEXTs AND PICTUREcDO",
   "cES NOT CONTAIN AS MEMBERuNORMAL SUBGROUPzk OR EQUALjDIVIDEp WITH REVERSED NEGATION SLASH",
   "jFORCEjPRECEDEq OR EQUALlOVEjSUCCEEDq OR EQUALcGd FACEdRA ABBREVIATION SIGNgLETTER AoAoIoUnBA",
   "oHAnCAoHAnDAoDApHAoHAnEnGAoHAnHAnIoInJAoHAnKAoHAnLAnMAnNAoGAoNAoYAnOnPAoHAnRAoRAnSAoHAoSAnTA",
   "oHAoTApHAnUoUnVAnYAgSIGN ANUSVARAlNUKTAlVIRAMAnSARGAgVOWEL SIGN AAsIsUrErIsIrOrUsUrVOCALIC R",
   "zbRcLLAR SIGNdPHINcMINO TILE HORIZONTAL BACKw-00-00zc1zc2zc3zc4zc5zc6y1-00zc1zc2zc3zc4zc5zc6",
   "y2-00zc1zc2zc3zc4zc5zc6y3-00zc1zc2zc3zc4zc5zc6y4-00zc1zc2zc3zc4zc5zc6y5-00zc1zc2zc3zc4zc5zc6",
   "y6-00zc1zc2zc3zc4zc5zc6mVERTICAL BACKu-00-00z1z2z3z4z5z6w1-00z1z2z3z4z5z6w2-00z1z2z3z4z5z6",
   "w3-00z1z2z3z4z5z6w4-00z1z2z3z4z5z6w5-00z1z2z3z4z5z6w6-00z1z2z3z4z5z6cNG SIGNcORcT ABOVEeMINUS",
   "eOPERATORePLUSdTED CIRCLEiROSShFENCEhLINE FACEhOBELOShRIGHT-POINTING ANGLEhSOLIDUSiQUARE",
   "hTRANSPOSITION MARKERcUBLE ACUTE ACCENThCIRCLED DIGIT EIGHTvFIVEwOURvNINEvONEvSEVENwIXvTHREE",
   "wWOpNUMBER TENiOLON EQUALiURLY LOOPhDAGGERiOWN TACKhEXCLAMATION MARK",
   "hHIGH-REVERSED-9 QUOTATION MARKiYPHENhINTEGRALlRSECTIONhLEFT ARC GREATER-THAN BRACKET",
   "iOGICAL ANDpORjW LINEk-9 QUOTATION MARKlREVERSED-9 QUOTATION MARKhNESTED GREATER-THAN",
   "oLESS-THANx WITH UNDERBARhOBLIQUE HYPHENhPLUSiRECEDESjIMEm QUOTATION MARKhQUESTION MARK",
   "hRIGHT ARC LESS-THAN BRACKEThSOLIDUS OPERATORiQUARE INTERSECTIONoUNIONiTACKED COMMA",
   "jROKE NOT SIGNiUBSETjCCEEDSjPERSETjSPENSION MARKhUNIONiP TACKhVERTICAL BAR",
   "t DOUBLE LEFT TURNSTILEzcRIGHT TURNSTILEuLEFT TURNSTILEqLINEhWAVY OVERLINEg-ENDED MULTIMAP",
   "hLINE EQUAL TO OR GREATER-THANyLESS-THANmSLANTED EQUAL TO OR GREATER-THANzhLESS-THAN",
   "uGREATER-THAN OR EQUAL TOuLESS-THAN OR EQUAL TOhSTRUCK CAPITAL CwGAMMAwHwNwPxIwQwRwZ",
   "oITALIC CAPITAL DvSMALL DzcEzcIzcJoN-ARY SUMMATIONoSMALL GAMMAuPIgD FEMALE SIGNiMALE SIGN",
   "iSYMBOLdGHNUTcVE OF PEACEcWN ARROWHEADfFISH TAILfRIGHT DIAGONAL ELLIPSISfTACK",
   "j WITH CIRCLE BELOWe-POINTING RED TRIANGLEoSMALL RED TRIANGLEoTRIANGLE WITH LEFT HALF BLACK",
   "zdRIGHT HALF BLACKeWARD FACING HOOKu WITH DOTqNOTCHED HOOKzd WITH DOTiS ANCORAlRROW",
   "p AND RIGHT ONE EIGHTH BLOCKqFROM BARqLEFTWARDS OF UPWARDS ARROWqTO BARqWITH CORNER LEFTWARDS",
   "vDOUBLE STROKEvEQUILATERAL ARROWHEADvHORIZONTAL STROKEvLARGE TRIANGLE ARROWHEAD",
   "vMEDIUM TRIANGLE ARROWHEADvNOTCHED TAILvSMALL EQUILATERAL ARROWHEADzcTRIANGLE ARROWHEAD",
   "vTIP LEFTWARDSzRIGHTWARDSkBLACK ARROWqCIRCLED WHITE ARROWkCOMPRESSED ARROWkDASHED ARROW",
   "lOUBLE ARROWkFINGER-POST ARROWkHARPOON WITH BARB LEFT BESIDE DOWNWARDS HARPOON WITH BARB RIGHT",
   "zpUPWARDS HARPOON WITH BARB RIGHTziFROM BARziTO BARzhWARDSzdRIGHT FROM BARzjTO BARziWARDS",
   "lEAVY ARROWqCOMPRESSED ARROWkPAIRED ARROWSkQUADRUPLE ARROWkROCKETkSANS-SERIF ARROW",
   "lQUARED ARROWkTRIANGLE ARROWHEADs-HEADED ARROWzg LEFTWARDS OF UPWARDS TRIANGLE-HEADED ARROW",
   "zhTO BARzhWITH BOLD SHAFTzmDOUBLE HORIZONTAL STROKEzmHEAVY SHAFTzmLONG TIP LEFTWARDS",
   "zvRIGHTWARDSzmMEDIUM SHAFTzmNARROW SHAFTzmVERY HEAVY SHAFTzbDASHED ARROWzbPAIRED ARROWS",
   "zbZIGZAG ARROWnPLE ARROWlWO HEADED ARROWn-HEADED ARROW WITH TRIANGLE ARROWHEADSkWHITE ARROW",
   "v WITHIN TRIANGLE ARROWHEADkZIGZAG ARROWbRACHMA SIGNdFTING POINT RIGHTWARDS ARROWdGONg FACE",
   "cESScIVE SLOW SIGNcOMEDARY CAMELdOLING FACEdP OF BLOODeLETcUM WITH DRUMSTICKSbUCKcMPLING",
   "cPLOYAN AFFIX ATTACHED E HOOKyI HOOKyLEFT-TO-RIGHT SECANTySECANTyTAILzbNGENTzg HOOKpHIGH ACUTE",
   "uCIRCLEuDOTuGRAVEuLINEvONG GRAVEuTIGHT ACUTEuVERTICALzd SECANTuWAVEpLEFT HORIZONTAL SECANT",
   "qOW ACUTEuRROWtCIRCLEtDOTtGRAVEtLINEuONG GRAVEtTIGHT ACUTEtVERTICALzc SECANTtWAVE",
   "pMID HORIZONTAL SECANTtVERTICAL SECANTpRIGHT HORIZONTAL SECANTjDOUBLE MARKjLETTER ArOUqBqDr S",
   "rHqErErUqFr NqGr R SqHrLqIrEqJr Mt SsNt SsSt WITH DOTsWITH DOTzbS INSIDE AND ABOVEqKr MsR SrK",
   "qLrHrONG IvUqMr Nt SsSsWITH DOTqNr Mt SsSsWITH DOTrASAL AwIwOwUqOrArOHrUrWqPr NrERNIN AMyNqR",
   "r SrHrOMANIAN IzUqSr Jt SsKt RsMsNsPt RsSsTt RsWITH DOTzb BELOWrHORT IrLOAN ANwDHwEExHxNwJwON",
   "xWwUqTr R SsSrHqUr NrHrIqVrOCALIC MqWr RrArEIrHrIrOsWqXrWqYEjPUNCTUATION CHINOOK FULL STOP",
   "jSIGN O WITH CROSSjTHICK LETTER SELECTORbVDaE-MAIL SYMBOLbAGLEcRd OF MAIZEhRICE",
   "eWITH HEARING AIDdTHf GLOBE AMERICASnSIA-AUSTRALIAmEUROPE-AFRICAhROUNDcST SYRIAC CROSS",
   "bDITORIAL CORONISbGGcYPTIAN HIEROGLYPH A001x2x3x4x5yAx6yAyBx7x8x9w10x1x2x3x4yAx5x6x7yAx8x9w20",
   "x1x2x3x4x5x6x7x8x9w30x1x2yAx3x4x5x6x7x8x9w40yAx1x2yAx3yAx4x5yAx6x7x8x9w50x1x2x3x4x5x6x7x8x9w60",
   "x1x2x3x4x5x6x7x8x9w70vA001y2y3y4y5y6y7zAzBy8y9x10y1y2y3y4y5y6y7y8y9x20y1y2y3y4y5y6y7y8y9x30y1",
   "y2uB001x2x3x4x5yAx6x7x8x9vEGIN SEGMENTuC001x2yAyByCx3x4x5x6x7x8x9w10yAx1x2x3x4x5x6x7x8x9w20x1",
   "x2x3x4uD001x2x3x4x5x6x7x8yAx9w10x1x2x3x4x5x6x7x8x9w20x1x2x3x4x5x6x7yAx8x9w30x1yAx2x3x4yAx5x6x7",
   "x8x9w40x1x2x3x4x5x6yAx7x8yAx9w50yAyByCyDyEyFyGyHyIx1x2yAx3x4yAx5x6x7x8x9w60x1x2x3x4x5x6x7yAyB",
   "yCyDyEyFyGyHuE001x2x3x4x5x6x7x8yAx9yAw10x1x2x3x4x5x6yAx7yAx8x9w20yAx1x2x3x4x5x6x7x8yAx9w30x1x2",
   "x3x4yAx6x7x8vND SEGMENTuF001yAx2x3x4x5x6x7x8x9w10x1x2x3yAx4x5x6x7x8x9w20x1yAx2x3x4x5x6x7x8x9",
   "w30x1yAx2x3x4x5x6x7yAx8yAx9w40x1x2x3x4x5yAx6yAx7yAx8x9w50x1yAyByCx2x3uG001x2x3x4x5x6yAx7yAyBx8",
   "x9w10x1yAx2x3x4x5x6x7x8x9w20yAx1x2x3x4x5x6yAx7x8x9w30x1x2x3x4x5x6yAx7yAx8x9w40x1x2x3yAx4x5yAx6",
   "x7x8x9w50x1x2x3x4uH001x2x3x4x5x6yAx7x8vORIZONTAL JOINERuI001x2x3x4x5yAx6x7x8x9yAw10yAx1yAx2x3",
   "x4x5vNSERT AT BOTTOM ENDzmSTARTzfTOP ENDzjSTARTuK001x2x3x4x5x6x7x8uL001x2yAx3x4x5x6yAx7x8uM001",
   "yAyBx2x3yAx4x5x6x7x8x9w10yAx1x2yAyByCyDyEyFyGyHx3x4x5yAx6yAx7yAx8x9w20x1x2yAx3x4yAx5x6x7x8yAx9",
   "w30x1yAx2x3yAyBx4x5x6x7x8x9w40yAx1x2x3x4uN001x2x3x4x5x6x7x8x9w10x1x2x3x4x5x6x7x8yAyBx9w20x1x2",
   "x3x4x5yAx6x7x8x9w30x1x2x3yAx4yAx5yAx6x7yAx8x9w40x1x2vL001y2y3y4y5zAy6y7y8y9x10y1y2y3y4y5y6y7zA",
   "y8y9x20vU001y2y3y4y5y6y7y8y9x10zAy1zAy2y3y4y5y6y7y8zAy9x20y1y2zAuO001yAx2x3x4x5yAx6yAyByCyDyE",
   "yFx7x8x9w10yAyByCx1x2x3x4x5x6x7x8x9yAw20yAx1x2x3x4yAx5yAx6x7x8x9yAw30yAx1x2x3yAx4x5x6yAyByCyD",
   "x7x8x9w40x1x2x3x4x5x6x7x8x9w50yAyBx1vVERLAY MIDDLEuP001yAx2x3yAx4x5x6x7x8x9w10x1uQ001x2x3x4x5",
   "x6x7uR001x2yAx3yAyBx4x5x6x7x8x9w10yAx1x2x3x4x5x6yAx7x8x9w20x1x2x3x4x5x6x7x8x9uS001x2yAx3x4x5x6",
   "yAx7x8x9w10x1x2x3x4yAyBx5x6x7yAx8x9w20x1x2x3x4x5x6yAyBx7x8x9w30x1x2x3x4x5yAx6x7x8x9w40x1x2x3x4",
   "x5x6uT001x2x3yAx4x5x6x7yAx8yAx9yAw10x1yAx2x3x4x5x6yAx7x8x9w20x1x2x3x4x5x6x7x8x9w30x1x2yAx3yAx4",
   "x5x6uU001x2x3x4x5x6yAyBx7x8x9w10x1x2x3x4x5x6x7x8x9w20x1x2x3yAx4x5x6x7x8x9yAw30x1x2yAx3x4x5x6x7",
   "x8x9w40x1x2uV001yAyByCyDyEyFyGyHyIx2yAx3x4x5x6x7yAyBx8x9w10x1yAyByCx2yAyBx3x4x5x6x7x8x9w20yAyB",
   "yCyDyEyFyGyHyIyJyKyLx1x2x3yAx4x5x6x7x8yAx9yAw30yAx1yAx2x3yAx4x5x6x7yAx8x9w40yAvERTICAL JOINER",
   "uW001x2x3yAx4x5x6x7x8x9yAw10yAx1x2x3x4yAx5x6x7yAx8yAx9w20x1x2x3x4yAx5uX001x2x3x4yAyBx5x6yAx7x8",
   "yAuY001yAx2x3x4x5x6x7x8uZ001x2yAyByCyDx3yAyBx4yAx5yAx6x7x8x9w10x1x2x3x4x5yAyByCyDyEyFyGyHyIx6",
   "yAyByCyDyEyFyGyHbIGHT PETALLED OUTLINED BLACK FLORETTEhOINTED BLACK STARoPINWHEEL STAR",
   "oRECTILINEAR BLACK STARgSPOKED ASTERISKgTEARDROP-SPOKED PROPELLER ASTERISKfH NOTEbJECT SYMBOL",
   "bLBASAN LETTER ApBEpCEqHEpDEqHEpEqIpFEpGEqHAMMArEqJEpHEpIpJEpKEqHEpLEqLEpMEpNAqDEqEqJEpOpPEpQE",
   "pREqREpSEqHEpTEqHEpUpVEpXEpYpZEqHEcECTRIC ARROWjLIGHT BULBjPLUGjTORCHiAL INTERSECTIONdMENT OF",
   "k OPENING DOWNWARDStUPWARDSlWITH DOT ABOVEqLONG HORIZONTAL STROKEqOVERBAR",
   "qTWO HORIZONTAL STROKESqUNDERBARqVERTICAL BAR AT END OF HORIZONTAL STROKEdPHANTdVATORcF",
   "cYMAIC LETTER ALEPHqYINpBETHpDALETHpGIMELpHErTHpKAPHpLAMEDHpMEMpNUNpPEpQOPHpRESHpSADHErMEKH",
   "qHINpTAWqETHpWAWpYODHpZAYINjIGATURE ZAYIN-YODHbM DASHdQUADdSPACEcOJI COMPONENT BALDqCURLY HAIR",
   "qRED HAIRqWHITE HAIRgMODIFIER FITZPATRICK TYPE-1-2zh3zh4zh5zh6cPHASIS SYMBOLdTY DOCUMENTgNEST",
   "hOTEk PADnGEgPAGEkSgSETj WITH LEFT ARROW ABOVEpOVERBARpRIGHT ARROW ABOVEpSMALL CIRCLE ABOVE",
   "bN DASHdQUADdSPACEcD OF GUARDED AREAhLINEhMEDIUMhPROOFkTECTED AREAhSELECTED AREAhTEXT",
   "iRANSMISSIONt BLOCKeWITH LEFTWARDS ARROW ABOVEcQdUIRYcTER SYMBOLcVELOPE",
   "i WITH DOWNWARDS ARROW ABOVEoLIGHTNINGbOLcMcTbPAbQUAL AND PARALLEL TOgTO BY DEFINITION",
   "jOR GREATER-THANmLESS-THANmPRECEDESmSUCCEEDSfS COLONhSIGNl ABOVE LEFTWARDS ARROWsPLUS SIGN",
   "sRIGHTWARDS ARROWsTILDE OPERATORnND SLANTED PARALLELzh WITH TILDE ABOVEmWITH BUMPY ABOVE",
   "rDOT BELOWrINFINITY BELOWrTWO DOTS ABOVE AND TWO DOTS BELOWhWITH ASTERISKdIANGULAR TO",
   "eVALENT TOlWITH FOUR DOTS ABOVEbRASE TO THE LEFTnRIGHTcIS FORM ONEkTWOcROR-BARRED BLACK CIRCLE",
   "tDIAMONDtSQUAREnWHITE CIRCLEtDIAMONDtSQUAREbSAcCdAPEcTIMATED SYMBOLiSbTBcHIOPIC COLON",
   "lMBINING GEMINATION AND VOWEL LENGTH MARKzfMARKtVOWEL LENGTH MARKmMAjDIGIT EIGHTpFIVEqOURpNINE",
   "pONEpSEVENqIXpTHREEqWOjFULL STOPjNUMBER EIGHTYqFIFTYrORTYqHUNDREDqNINETYqSEVENTYrIXTYqTEN",
   "t THOUSANDrHIRTYrWENTYjPARAGRAPH SEPARATORkREFACE COLONjQUESTION MARKjSECTION MARKlMICOLON",
   "kYLLABLE BAuAtBAvAuEvEuIuOuUtEuEtItOuAtUtWAuEvEuIsCAuAtCAvAuEvEuHAwAvEwEvHAxAwExEwIwOwUvIvOvU",
   "uIuOuUtEuEtHAvAuEvEuIuOvAuUuWAtItOuAtUtWAsDAuAtDAvAuEvEuHAAvEwEvIvOvUuIuOvAuUuWAtEuEtItOuAtU",
   "tWAtZAAuEvEuIuOuUsFAuAtEuEtItOtUtWAuEvEuItYAsGAuAtEuEtGAvAuEvEuIuOuUuWAwAvEwEvItItLOTTAL AzcA",
   "zbEzcEzbIzbOzcAzbUzbWAtOuAtUuRAGE BWEEzcIzFWEEzcIzGWEzdEzcIzHHWAzKWEzdEzcIzMWEEzcIzPWEEzcIzQWE",
   "zdEzcItWAvAuEvEuItYAvAuEvEuIuOuUsHAuAtEuEtHAvAuEvEuIuOuUuWAvEwEvIuYAwAvEwEvIvOvUtItOuAtUsJAuA",
   "tEuEtItOuAtUtWAsKAuAtEuEtItOuAtUtWAvAuEvEuItXAvAuEvEuIuOuUuWAwAvEwEvItYAvAuEvEuIuOuUsLAuAtEuE",
   "tItOuAtUtWAsMAuAtEuEtItOuAtUtWAuEvEuItYAsNAuAtEuEtItOuAtUtWAtYAvAuEvEuIuOvAuUuWAsPAuAtEuEtHAvA",
   "vRYNGEAL AzfAzeEzfEzeIzeOzeUuEvEuIuOvAuUuWAtItOuAtUtWAuEvEuIsQAuAtEuEtHAvAuEvEuIuOuUuWAwAvEwE",
   "vItItOuAtUtWAvAuEvEuItYAvAuEvEuIuOuUsRAuAtEuEtItOuAtUtWAtYAsSAuAtEuBATBEIT BWAzdFWAzdMWAzdPWA",
   "uEtHAvAuEvEuIuOvAuUuWAtItOuAtSAvAuEvEuIuOuUtUtWAtZAvAuEvEuIuOuUuWAsTAuAtEuEtHAvAuEvEuIuOvAuU",
   "uWAtItOuAtSAvAuEvEuIuOuUuWAtTHAAvEwEvIvOvUtUtWAtZAvAuEvEuIuOvAuUsVAuAtEuEtItOtUtWAsWAuAtEuEtI",
   "tOuAtUsXAuAtEuEtItOuAtUtWAvAuEvEuItYAvAuEvEuIuOuUsYAuAtEuEtItOuAtUsZAuAtEuEtHAvAuEvEuIuOuUuWA",
   "tItOuAtUtWAtZAvAuEvEuIuOuUjTONAL MARK CHIRETuDERETz-HIDETvIFATuHIDETuKENATvURTuRIKRIK",
   "uSHORT RIKRIKuYIZETjWORDSPACEcXbULER CONSTANTcRO SIGNe-CURRENCY SIGNePEAN CASTLEjPOST OFFICE",
   "bVERGREEN TREEbXCESSdLAMATION MARKmQUESTION MARKcPRESSIONLESS FACE",
   "cTENDED ARABIC-INDIC DIGIT EIGHTzdFIVEzeOURzdNINEzdONEzdSEVENzeIXzdTHREEzeWOzdZERO",
   "dRATERRESTRIAL ALIENeEMELY HEAVY FIVE SPOKED ASTERISKqGREEK CROSSqSALTIRErIX SPOKED ASTERISK",
   "qWHITE CIRCLEwSQUAREbYEdGLASSESdSaFACE HOLDING BACK TEARSfMASSAGEfPALM",
   "fSAVOURING DELICIOUS FOODgCREAMING IN FEARfTHROWING A KISSfWITH COLD SWEATmWBOY HAT",
   "kDIAGONAL MOUTHkFINGER COVERING CLOSED LIPSkHEAD-BANDAGEkLOOK OF TRIUMPHkMEDICAL MASKlONOCLE",
   "kNO GOOD GESTUREkOK GESTURElNE EYEBROW RAISEDlPEN EYES AND HAND OVER MOUTHpMOUTH",
   "u AND COLD SWEATvVOMITINGkPARTY HORN AND PARTY HATlEEKING EYElLEADING EYESkROLLING EYES",
   "kSTUCK-OUT TONGUEzb AND TIGHTLY-CLOSED EYESzgWINKING EYEkTEARS OF JOYlHERMOMETER",
   "kUNEVEN EYES AND WAVY MOUTHjOUT MOUTHdSIMILE SIGNdTORYcIRYcLAFELdLEN LEAF",
   "eING DIAGONAL CROSSING NORTH EAST ARROWzbRISING DIAGONALrIN WHITE CIRCLE IN BLACK SQUAREcMILY",
   "cRSI SYMBOLcTHER CHRISTMAScX ICONeMACHINEbEARFUL FACEdTHERcMALE SIGNdININE ORDINAL INDICATOR",
   "cNCERcRRIS WHEELeYbFbIELD HOCKEY STICK AND BALLcGURE DASHhSPACEcLE CABINETfFOLDERfSEPARATOR",
   "dM FRAMESfPROJECTORcNITE PART INTEGRALcREe ENGINEgXTINGUISHEReCRACKEReWORK SPARKLERiS",
   "dST PLACE MEDALgQUARTER MOONs SYMBOLtWITH FACEgSTRONG ISOLATEcSHe CAKE WITH SWIRL DESIGNeEYE",
   "eING POLE AND FISHdTED HAND SIGNcVE DOT MARKjPUNCTUATIONbLAG IN HOLEdMINGOdT SHOEeBREADeNESS",
   "cEUR-DE-LISdXED BICEPScOPPY DISKdRAL HEARTdWERg PLAYING CARDSiUNCTUATION MARKcUSHED FACEcY",
   "dING DISChENVELOPEhSAUCERbOGdGYcLDERcNDUEcOTePRINTScR ALLdCESdK AND KNIFEo WITH PLATE",
   "eED PARAGRAPHOSeINGdM FEEDdTUNE COOKIEcUNTAINdR BALLOON-SPOKED ASTERISKfCLUB-SPOKED ASTERISK",
   "gORNER ARROWS CIRCLING ANTICLOCKWISEfDOT MARKjPUNCTUATIONfLEAF CLOVERfPOINTED BLACK STAR",
   "fTEARDROP-SPOKED ASTERISKe-PER-EM SPACEeTH ROOTcX FACEbRACTION NUMERATOR ONEjSLASH",
   "dME WITH AN XlPICTURElTILEScEEZING FACEdNCH FRANC SIGNjIEScIED SHRIMPcOG FACE",
   "dNT-FACING BABY CHICKgTILTED SHADOWED WHITE RIGHTWARDS ARROWdWNfING FACE WITH OPEN MOUTHbScI",
   "bUEL PUMPcLL BLOCKfMOON SYMBOLkWITH FACEfOUTER JOINfSTOPeWIDTH AMPERSANDlPOSTROPHElSTERISK",
   "kBROKEN BARkCENT SIGNlIRCUMFLEX ACCENTlOLONmMMAoERCIAL ATkDIGIT EIGHTqFIVErOURqNINEqONEqSEVEN",
   "rIXqTHREErWOqZEROlOLLAR SIGNkEQUALS SIGNlXCLAMATION MARKkFULL STOPkGRAVE ACCENT",
   "mEATER-THAN SIGNkHYPHEN-MINUSkLATIN CAPITAL LETTER AzgBzgCzgDzgEzgFzgGzgHzgIzgJzgKzgLzgMzgNzgO",
   "zgPzgQzgRzgSzgTzgUzgVzgWzgXzgYzgZqSMALL LETTER AzeBzeCzeDzeEzeFzeGzeHzeIzeJzeKzeLzeMzeNzeOzeP",
   "zeQzeRzeSzeTzeUzeVzeWzeXzeYzeZlEFT CURLY BRACKETpPARENTHESISpSQUARE BRACKETpWHITE PARENTHESIS",
   "mSS-THAN SIGNlOW LINEkMACRONkNOT SIGNlUMBER SIGNkPERCENT SIGNlLUS SIGNlOUND SIGNkQUESTION MARK",
   "mOTATION MARKkREVERSE SOLIDUSlIGHT CURLY BRACKETqPARENTHESISqSQUARE BRACKETqWHITE PARENTHESIS",
   "kSEMICOLONlOLIDUSkTILDEkVERTICAL LINEkWON SIGNkYEN SIGNcNCTION APPLICATIONdERAL URNcSEbVS1d2d3",
   "d4aGAME DIEcRLICbEARe WITH HANDLESjOUT HUBcM STONEdINIcNIEcOMETRIC PROPORTIONjALLY EQUAL TO",
   "rIVALENT TOdRGIAN CAPITAL LETTER AENzNyBANyCANzHARzbINzILyDONyENyGANzHANyHAEzbRzEzIEzOEyIN",
   "yJHANzILyKANzHARyLASyMANyNARyONyPARzHARyQARyRAEySANzHINyTANzbRyUNyVINyWEyXANyYNyZENzHAR",
   "jLETTER AENrINrNqBANqCANrHARsINrILqDONqELIFIrNqFIqGANrHANqHAEsRtD SIGNrErIErOEqINqJHANrILqKAN",
   "rHARqLABIAL SIGNsSqMANqNARqONqPARrHARqQARqRAEqSANrHINqTANsRrURNED GANqUNqVINqWEqXANqYNqZENrHAR",
   "jMTAVRULI CAPITAL LETTER AENzjINzjNziBANziCANzjHARzkINzjILziDONziELIFIzjNziFIziGANzjHANziHAE",
   "zkRzlD SIGNzjEzjIEzjOEziINziJHANzjILziKANzjHARziLABIAL SIGNzkSziMANziNARziONziPARzjHARziQAR",
   "ziRAEziSANzjHINziTANzkRzjURNED GANziUNziVINziWEziXANziYNziZENzjHARjPARAGRAPH SEPARATOR",
   "jSMALL LETTER AENxNwBANwCANxHARyINxILwDONwENwGANxHANwHAEyRxExIExOEwINwJHANxILwKANxHARwLASwMAN",
   "wNARwONwPARxHARwQARwRAEwSANxHINwTANyRwUNwVINwWEwXANwYNwZENxHARcRMAN PENNY SIGNcTA MARKbHOST",
   "bIMEL SYMBOLcRAFFE FACEdLeS SYMBOLbLAGOLITIC CAPITAL LETTER AZUzbBIG YUSzcUKYzbCAUDATE CHRIVI",
   "zcHRIVIzbDJERVIzcOBROzcZELOzbFITAzcRITUzbGLAGOLIzbHERUzbIzcNITIAL IZHEzcOTATED BIG YUS",
   "zjSMALL YUSzcZHEzeITSAzbKAKOzbLATINATE MYSLITEzcJUDIJEzbMYSLITEzbNASHIzbONUzcTUzbPEzcOKOJI",
   "zbRITSIzbSHAzdTAzfPICzcLOVOzcMALL YUSzk WITH TAILzcPIDERY HAzbTROKUTASTI AzcSIzcVRIDOzbUKU",
   "zbVEDEzbYATIzcERIzeUzdSTUzcOzcUzbZEMLJAzcHIVETElSMALL LETTER AZUyBIG YUSzUKYyCAUDATE CHRIVI",
   "zHRIVIyDJERVIzOBROzZELOyFITAzRITUyGLAGOLIyHERUyIzNITIAL IZHEzOTATED BIG YUSzhSMALL YUSzZHE",
   "zcITSAyKAKOyLATINATE MYSLITEzJUDIJEyMYSLITEyNASHIyONUzTUyPEzOKOJIyRITSIySHAzbTAzdPICzLOVO",
   "zMALL YUSzi WITH TAILzPIDERY HAyTROKUTASTI AzSIzVRIDOyUKUyVEDEyYATIzERIzcUzbSTUzOzUyZEMLJA",
   "zHIVETEdSS OF MILKcEICH STARKcOBE WITH MERIDIANSdVESdWING STARbOAL NETdTcGGLEScLFERcRILLA",
   "cTHIC LETTER AHSApIHVUSoBAIRKANoDAGSoEISoFAIHUoGIBAoHAGLpWAIRoIGGWSpUJAoJERoKUSMAoLAGUSoMANNA",
   "oNAUTHSpINE HUNDREDsTYoOTHALoPAIRTHRAoQAIRTHRAoRAIDAoSAUILoTEIWSpHIUTHoURUSoWINJA",
   "bRADUATION CAPdNTHA AU LENGTH MARKiLETTER AqAqIqUpBAqHApCAqHApDAqDArHAqHApEEpGAqHApHApIqIpJA",
   "qHApKAqHApLAqLApMApNAqGAqNAqYApOOpPAqHApRApSAqHAqSApTAqHAqTArHApUqUpVAqEDIC ANUSVARA",
   "vDOUBLE ANUSVARAqOCALIC LyLxRyRpYAiOMiSIGN ANUSVARAoVAGRAHAnCANDRABINDU",
   "oOMBINING ANUSVARA ABOVEnNUKTAnPLUTAnVIRAMApSARGAiVOWEL SIGN AAuIuUtEEtIuItOOtUuUtVOCALIC LzdL",
   "zcRzdRdPESdVE ACCENTcEATER-THAN ABOVE DOUBLE-LINE EQUAL ABOVE LESS-THAN",
   "tLESS-THAN ABOVE DOUBLE-LINE EQUALtRIGHTWARDS ARROWtSIMILAR ABOVE LESS-THANzcOR EQUAL",
   "uLANTED EQUAL ABOVE LESS-THAN ABOVE SLANTED EQUALoND NOT APPROXIMATErSINGLE-LINE NOT EQUAL TO",
   "nBESIDE LESS-THANoUT NOT EQUAL TOyIVALENT TOnCLOSED BY CURVEzd ABOVE SLANTED EQUAL",
   "nEQUAL TO OR LESS-THANnOR APPROXIMATEqEQUAL TOtIVALENT TOqLESS-THANqSLANTED EQUAL TO",
   "zh WITH DOT ABOVEzw LEFTzrINSIDEoVER EQUAL TOrLAPPING LESS-THANnSIGNnWITH CIRCLE INSIDEsDOT",
   "sQUESTION MARK ABOVEdEK ACROPHONIC ATTIC FIFTYzd STATERSzeTALENTSzfHOUSANDzm STATERSzVE",
   "zc HUNDREDzk STATERSzlTALENTSzdSTATERSzdTALENTSzeHOUSANDzl TALENTSxONE DRACHMAzcHALF",
   "zdUNDRED STATERSzkTALENTSzcQUARTERzcTHOUSAND STATERSzlTALENTSxTEN MNASzcSTATERSzcTALENTS",
   "zdHOUSAND STATERSrCARYSTIAN FIVE HUNDREDsYRENAIC TWO DRACHMASrDELPHIC FIVE MNAS",
   "rEPIDAUREAN FIVE HUNDREDzdTWOzg DRACHMASrHERAEUM ONE PLETHRONuMIONIAN FIFTYzdONEzdTEN",
   "rMESSENIAN TENrNAXIAN FIVE HUNDREDrSTRATIAN FIFTY MNASrTHESPIAN FIFTYzdVE HUNDREDzgTHOUSAND",
   "zbONEze HUNDREDzfTHOUSANDzbTENzcHIRTYzdREE HUNDREDzcWOsROEZENIAN FIFTYzi ALTERNATE FORMzfVE",
   "zh HUNDREDzdTENzg ALTERNATE FORMhNO TELEIAhROURA SIGNiTABE SIGNgBETA SYMBOL",
   "gCAPITAL DOTTED LUNATE SIGMA SYMBOLoKAI SYMBOLoLETTER ALPHAzb WITH DASIAzm AND OXIA",
   "zv AND PROSGEGRAMMENIzrPERISPOMENIzzd AND PROSGEGRAMMENIzsROSGEGRAMMENIzrVARIA",
   "zw AND PROSGEGRAMMENIzhMACRONzhOXIAzhPROSGEGRAMMENIziSILIzm AND OXIAzv AND PROSGEGRAMMENI",
   "zrPERISPOMENIzzd AND PROSGEGRAMMENIzsROSGEGRAMMENIzrVARIAzw AND PROSGEGRAMMENIzhTONOSzhVARIA",
   "ziRACHYwRCHAIC SAMPIvBETAvCHIvDELTAvEPSILONzd WITH DASIAzo AND OXIAztVARIAzjOXIAzjPSILI",
   "zo AND OXIAztVARIAzjTONOSzjVARIAwTAy WITH DASIAzk AND OXIAzt AND PROSGEGRAMMENIzpPERISPOMENI",
   "zzb AND PROSGEGRAMMENIzqROSGEGRAMMENIzpVARIAzu AND PROSGEGRAMMENIzfOXIAzfPROSGEGRAMMENIzgSILI",
   "zk AND OXIAzt AND PROSGEGRAMMENIzpPERISPOMENIzzb AND PROSGEGRAMMENIzqROSGEGRAMMENIzpVARIA",
   "zu AND PROSGEGRAMMENIzfTONOSzfVARIAvGAMMAvHETAvIOTAz WITH DASIAzl AND OXIAzqPERISPOMENIzqVARIA",
   "zhIALYTIKAzgMACRONzgOXIAzgPSILIzl AND OXIAzqPERISPOMENIzqVARIAzgTONOSzgVARIAzhRACHYvKAPPA",
   "vLAMDAvMUvNUvOMEGAzb WITH DASIAzm AND OXIAzv AND PROSGEGRAMMENIzrPERISPOMENI",
   "zzd AND PROSGEGRAMMENIzsROSGEGRAMMENIzrVARIAzw AND PROSGEGRAMMENIzhOXIAzhPROSGEGRAMMENIziSILI",
   "zm AND OXIAzv AND PROSGEGRAMMENIzrPERISPOMENIzzd AND PROSGEGRAMMENIzsROSGEGRAMMENIzrVARIA",
   "zw AND PROSGEGRAMMENIzhTONOSzhVARIAxICRONzd WITH DASIAzo AND OXIAztVARIAzjOXIAzjPSILI",
   "zo AND OXIAztVARIAzjTONOSzjVARIAvPAMPHYLIAN DIGAMMAwHIwIwSIvRHOy WITH DASIAvSANwHOwIGMAvTAU",
   "wHETAvUPSILONzd WITH DASIAzo AND OXIAztPERISPOMENIztVARIAzkIALYTIKAzjMACRONzjOXIAzjTONOS",
   "zjVARIAzkRACHYvXIvYOTvZETApUNATE SIGMA SYMBOLoREVERSED DOTTED LUNATE SIGMA SYMBOL",
   "xLUNATE SIGMA SYMBOLoTHETA SYMBOLgDASIAl AND OXIAqPERISPOMENIqVARIAhIALYTIKA AND OXIA",
   "uPERISPOMENIuVARIAqTONOShRACHMA SIGNgFIVE OBOLS SIGNhOUR OBOLS SIGNgGRAMMA SIGNgINDICTION SIGN",
   "iSTRUMENTAL NOTATION SYMBOL-1zl1zl2zl3zl4zl7zl8zl9zk2zl3zl4zl5zl6zl7zl9zk30zl2zl6zl7zl8zl9zk4",
   "zl0zl2zl3zl5zl7zl8zl9zk5zl0zl1zl2zl3zl4zk7zk8gKAI SYMBOLiPPA SYMBOLhORONIShYATHOS BASE SIGN",
   "gLETTER ARCHAIC KOPPAnDIGAMMAnKOPPAnSAMPIoMALL CAPITAL GAMMAzcLAMDAzcOMEGAzcPIzdSIzcRHOoTIGMA",
   "nYOThITRA SIGNhOWER NUMERAL SIGNhUNATE EPSILON SYMBOLnSIGMA SYMBOLgMETRETES SIGNhUSICAL LEIMMA",
   "gNUMERAL SIGNgOBOL SIGNhNE HALF SIGNt ALTERNATE FORMkQUARTER SIGNhUNKIA SIGNhXIAgPERISPOMENI",
   "hHI SYMBOLhI SYMBOLhROSGEGRAMMENIhSILIl AND OXIAqPERISPOMENIqVARIAgQUESTION MARK",
   "gREVERSED LUNATE EPSILON SYMBOLhHO SYMBOLkWITH STROKE SYMBOLgSINUSOID SIGN",
   "hMALL DOTTED LUNATE SIGMA SYMBOLmLETTER ALPHAy WITH DASIAzk AND OXIAzt AND YPOGEGRAMMENI",
   "zpPERISPOMENIzzb AND YPOGEGRAMMENIzpVARIAzu AND YPOGEGRAMMENIzpYPOGEGRAMMENIzfMACRONzfOXIA",
   "zj AND YPOGEGRAMMENIzfPERISPOMENIzq AND YPOGEGRAMMENIzgSILIzk AND OXIAzt AND YPOGEGRAMMENI",
   "zpPERISPOMENIzzb AND YPOGEGRAMMENIzpVARIAzu AND YPOGEGRAMMENIzpYPOGEGRAMMENIzfTONOSzfVARIA",
   "zk AND YPOGEGRAMMENIzgRACHYzfYPOGEGRAMMENIuRCHAIC KOPPAzcSAMPItBETAtCHItDELTAuIGAMMAtEPSILON",
   "zb WITH DASIAzm AND OXIAzrVARIAzhOXIAzhPSILIzm AND OXIAzrVARIAzhTONOSzhVARIAuTAw WITH DASIA",
   "zi AND OXIAzr AND YPOGEGRAMMENIznPERISPOMENIzy AND YPOGEGRAMMENIznVARIAzs AND YPOGEGRAMMENI",
   "znYPOGEGRAMMENIzdOXIAzh AND YPOGEGRAMMENIzdPERISPOMENIzo AND YPOGEGRAMMENIzeSILIzi AND OXIA",
   "zr AND YPOGEGRAMMENIznPERISPOMENIzy AND YPOGEGRAMMENIznVARIAzs AND YPOGEGRAMMENI",
   "znYPOGEGRAMMENIzdTONOSzdVARIAzi AND YPOGEGRAMMENIzdYPOGEGRAMMENItFINAL SIGMAtGAMMAtHETAtIOTA",
   "x WITH DASIAzj AND OXIAzoPERISPOMENIzoVARIAzfIALYTIKAzn AND OXIAzsPERISPOMENIzsTONOSzsVARIA",
   "zeMACRONzeOXIAzePERISPOMENIzfSILIzj AND OXIAzoPERISPOMENIzoVARIAzeTONOSzeVARIAzfRACHYtKAPPA",
   "uOPPAtLAMDAtMUtNUtOMEGAy WITH DASIAzk AND OXIAzt AND YPOGEGRAMMENIzpPERISPOMENI",
   "zzb AND YPOGEGRAMMENIzpVARIAzu AND YPOGEGRAMMENIzpYPOGEGRAMMENIzfOXIAzj AND YPOGEGRAMMENI",
   "zfPERISPOMENIzq AND YPOGEGRAMMENIzgSILIzk AND OXIAzt AND YPOGEGRAMMENIzpPERISPOMENI",
   "zzb AND YPOGEGRAMMENIzpVARIAzu AND YPOGEGRAMMENIzpYPOGEGRAMMENIzfTONOSzfVARIA",
   "zk AND YPOGEGRAMMENIzfYPOGEGRAMMENIvICRONzb WITH DASIAzm AND OXIAzrVARIAzhOXIAzhPSILI",
   "zm AND OXIAzrVARIAzhTONOSzhVARIAtPAMPHYLIAN DIGAMMAuHIuIuSItRHOw WITH DASIAzdPSILItSAMPIvNuHO",
   "uIGMAuTIGMAtTAUuHETAtUPSILONzb WITH DASIAzm AND OXIAzrPERISPOMENIzrVARIAziIALYTIKAzq AND OXIA",
   "zvPERISPOMENIzvTONOSzvVARIAzhMACRONzhOXIAzhPERISPOMENIziSILIzm AND OXIAzrPERISPOMENIzrVARIA",
   "zhTONOSzhVARIAziRACHYtXItZETAmREVERSED DOTTED LUNATE SIGMA SYMBOLvLUNATE SIGMA SYMBOL",
   "hUBSCRIPT SMALL LETTER BETAzeCHIzeGAMMAzePHIzeRHOhYMBOL TAU RHOgTALENT SIGNhHETA SYMBOL",
   "iREE OBOLS SIGNmQUARTERS SIGNhONOShRYBLION BASE SIGNhWO OBOLS SIGNkTHIRDS SIGN",
   "gUPSILON WITH ACUTE AND HOOK SYMBOLtDIAERESIS AND HOOK SYMBOLtHOOK SYMBOLgVARIA",
   "hOCAL NOTATION SYMBOL-1ze0ze1ze2ze3ze4ze5ze6ze7ze8ze9zd2ze0ze1ze2ze3ze4zd3zd4zd5ze0ze1ze2ze3",
   "ze4zd6zd7zd8zd9gXESTES SIGNgYEAR SIGNhPOGEGRAMMENIgZERO SIGNeN APPLEgBOOKgHEARTgSALAD",
   "cIMACING FACEdNNING CAT FACE WITH SMILING EYESjFACEn WITH ONE LARGE AND ONE SMALL EYE",
   "tSMILING EYESuTAR EYEScOUP MARKgSEPARATORdWING HEARTbSbUARANI SIGNeDSMANcIDE DOGdTAR",
   "cJARATI ABBREVIATION SIGNjDIGIT EIGHTpFIVEqOURpNINEpONEpSEVENqIXpTHREEqWOpZEROjLETTER ArArIrU",
   "qBArHAqCArHAqDArDAsHArHAqEqGArHAqHAqIrIqJArHAqKArHAqLArLAqMAqNArGArNArYAqOqPArHAqRAqSArHArSA",
   "qTArHArTAsHAqUrUqVArOCALIC LzLyRzRqYAqZHAjOMjRUPEE SIGNjSIGN ANUSVARApVAGRAHAoCANDRABINDU",
   "pIRCLE NUKTA ABOVEoMADDAHoNUKTAoSHADDApUKUNoTHREE-DOT NUKTA ABOVEpWO-CIRCLE NUKTA ABOVEoVIRAMA",
   "qSARGAjVOWEL CANDRA EwOpSIGN AAvIvUuCANDRA EzcOuEuIvIuOuUvUuVOCALIC LzeLzdRzeR",
   "cNJALA GONDI DIGIT EIGHTuFIVEvOURuNINEuONEuSEVENvIXuTHREEvWOuZEROoLETTER AwAwIwUvBAwHAvCAwHA",
   "vDAwDAxHAwHAvEEvGAwHAvHAvIwIvJAwHAvKAwHAvLAwLAvMAvNAwGAvOOvPAwHAvRAvSAvTAwHAwTAxHAvUwUvVAvYA",
   "oOMoSIGN ANUSVARAtVISARGAoVIRAMApOWEL SIGN AAzbIzbUzEEzIzbIzOOzUzbUcRMUKHI ABBREVIATION SIGN",
   "kDDAKjDIGIT EIGHTpFIVEqOURpNINEpONEpSEVENqIXpTHREEqWOpZEROjEK ONKARjIRIjLETTER ArArIrUqBArHA",
   "qCArHAqDArDAsHArHAqEEqFAqGArHAsHAqHAqIrIqJArHAqKArHAsHAqLArLAqMAqNArGArNArYAqOOqPArHAqRArRAqSA",
   "rHAqTArHArTAsHAqUrUqVAqYAqZAjSIGN ADAK BINDIoBINDIoNUKTAoUDAAToVIRAMAqSARGAoYAKASHjTIPPIjURA",
   "jVOWEL SIGN AAvIvUuEEuIvIuOOuUvUaHADEScIR SPACEeCUTcLFWIDTH BLACK SQUAREkDOWNWARDS ARROW",
   "kFORMS LIGHT VERTICALkHANGUL FILLERrLETTER AzEyCHIEUCHzIEUCyEzOzUyHIEUHyIzEUNGyKHIEUKHzIYEOK",
   "zf-SIOSyMIEUMyNIEUNze-CIEUCzfHIEUHyOzEyPHIEUPHzIEUPze-SIOSyRIEULze-HIEUHzfKIYEOKzfMIEUM",
   "zfPHIEUPHzgIEUPzfSIOSzfTHIEUTHySIOSzSANGCIEUCzeKIYEOKzePIEUPzeSIOSzeTIKEUTyTHIEUTHzIKEUTyUyWA",
   "zbEzEzbOzIyYAzbEzEzbOzIzOzUkIDEOGRAPHIC COMMAwFULL STOPkKATAKANA LETTER AzbEzbHAzcEzcIzcOzcU",
   "zbIzbKAzcEzcIzcOzcUzbMAzcEzcIzcOzcUzbNzcAzcEzcIzcOzcUzbOzbRAzcEzcIzcOzcUzbSAzcEzcIzcMALL AzhE",
   "zhIzhOzhTUzhUzhYAziOziUzcOzcUzbTAzcEzcIzcOzcUzbUzbWAzcOzbYAzcOzcUtMIDDLE DOT",
   "tSEMI-VOICED SOUND MARKtVOICED SOUND MARKs-HIRAGANA PROLONGED SOUND MARKkLEFT CORNER BRACKET",
   "oWARDS ARROWkRIGHT CORNER BRACKETpWARDS ARROWkUPWARDS ARROWkWHITE CIRCLEcMBURGERdMERg AND PICK",
   "lSICKLElWRENCHdSAeTER FACEcND WITH INDEX AND MIDDLE FINGERS CROSSEDqFINGER AND THUMB CROSSED",
   "eBAGgLLeSHAKEdGUL CHOSEONG CEONGCHIEUMCHIEUCHzdIEUCzcSIOSzdSANGCIEUCzhSIOSrHIEUCHx-HIEUH",
   "yKHIEUKHtTUEUMCHIEUCHzIEUCySIOSzSANGCIEUCzeSIOSrIEUCv-IEUNGqFILLERqHIEUHv-SIOSqIEUNGv-CHIEUCH",
   "xIEUCwHIEUHwKIYEOKwMIEUMwPANSIOSxHIEUPHxIEUPwRIEULwSIOSwTHIEUTHxIKEUTqKAPYEOUNMIEUMyPHIEUPH",
   "zIEUPyRIEULySSANGPIEUPrHIEUKHrIYEOKw-TIKEUTqMIEUMv-KIYEOKwPIEUPwSIOSwTIKEUTqNIEUNv-CIEUCwHIEUH",
   "wKIYEOKwPIEUPwSIOSwTIKEUTqPANSIOSrHIEUPHx-HIEUHyPIEUPrIEUPv-CHIEUCHxIEUCwHIEUHwKHIEUKHxIYEOK",
   "wNIEUNwPHIEUPHwSIOSzb-CIEUCzcKIYEOKzcPIEUPzcTHIEUTHzdIKEUTxSANGSIOSwTHIEUTHxIKEUTqRIEULv-CIEUC",
   "wHIEUHwKAPYEOUNPIEUPxHIEUKHxIYEOKwMIEUMwNIEUNwPIEUPwSIOSxSANGKIYEOKzcPIEUPzcTIKEUTwTIKEUTqSIOS",
   "u-CHIEUCHwIEUCvHIEUHvIEUNGvKHIEUKHwIYEOKvMIEUMvNIEUNvPHIEUPHwIEUPzb-KIYEOKvRIEULvSSANGSIOS",
   "vTHIEUTHwIKEUTrSANGCIEUCzb-HIEUHvHIEUHvIEUNGvKIYEOKvNIEUNvPIEUPvRIEULvSIOSz-PIEUPvTHIEUTH",
   "wIKEUTvYEORINHIEUHqTHIEUTHrIKEUTw-CIEUCxKIYEOKxMIEUMxPIEUPxRIEULxSIOSqYEORINHIEUHsSIEUNG",
   "hDOUBLE DOT TONE MARKhFILLERhJONGSEONG CHIEUCHsIEUCw-PIEUPxSSANGPIEUPrHIEUHw-MIEUMxNIEUNxPIEUP",
   "xRIEULrIEUNGw-KHIEUKHyIYEOKxSSANGKIYEOKrKAPYEOUNMIEUMzPHIEUPHzbIEUPzRIEULsHIEUKHsIYEOK",
   "x-CHIEUCHyHIEUHyKHIEUKHyNIEUNyPIEUPyRIEULySIOSzd-KIYEOKrMIEUMw-CHIEUCHyIEUCxHIEUHxKIYEOKxNIEUN",
   "xPANSIOSyIEUPzd-SIOSxRIEULxSIOSySANGNIEUNzdSIOSrNIEUNw-CHIEUCHyIEUCxHIEUHxKIYEOKxPANSIOSxRIEUL",
   "xSIOSxTHIEUTHyIKEUTrPANSIOSy-KAPYEOUNPIEUPzPIEUPsHIEUPHy-PIEUPzSIOSzTHIEUTHsIEUPw-CHIEUCHyIEUC",
   "xHIEUHxMIEUMxPHIEUPHxRIEULzd-PHIEUPHxSIOSzc-TIKEUTxTIKEUTrRIEULw-HIEUHxKAPYEOUNPIEUPyHIEUKH",
   "yIYEOKze-HIEUHzfSIOSxMIEUMzd-HIEUHzeKIYEOKzeSIOSxNIEUNxPANSIOSyHIEUPHyIEUPzd-HIEUHzePHIEUPH",
   "zeSIOSzeTIKEUTxSIOSySANGKIYEOKzdSIOSxTHIEUTHyIKEUTze-HIEUHxYEORINHIEUHzj-HIEUHzSIEUNGrSIOS",
   "v-CHIEUCHxIEUCwHIEUHwKAPYEOUNPIEUPxIYEOKwMIEUMwPANSIOSxIEUPwRIEULwTHIEUTHxIKEUTsSANGCIEUC",
   "wIEUNGwKIYEOKwMIEUMwNIEUNwPIEUPwRIEULzc-KHIEUKHwSIOSzb-KIYEOKzcTIKEUTwTIKEUTzd-PIEUPwYESIEUNG",
   "rTHIEUTHsIKEUTx-CHIEUCHzIEUCyKIYEOKyPIEUPyRIEULySIOSzd-KIYEOKyTHIEUTHrYEORINHIEUHtSIEUNG",
   "z-HIEUHzbKHIEUKHzcIYEOKzbMIEUMzbPANSIOSzbSIOSzcSANGKIYEOKiUNGSEONG As-EUtOtUsEsRAEAw-AxEyOxIxU",
   "rEsOt-EUuOuUsUt-AuEvOvUuOuUrFILLERrIs-AuRAEAtEUtItOu-ItUtYAv-OvEuEvOuOuUrOs-EuOtOu-ItUtYAvEuE",
   "vOsErSSANGARAEArUs-AuEtEO-EUtI-ItUtYEvOrWAtEsEtOsIrYAt-OuUuYOtEsEtOu-OvUvYAsIt-UsOt-AvEuEOuIuO",
   "uYAwEvEOsUt-AvEuEvOuIuOuUuYEwOhLETTER ApEpRAEAtEoCHIEUCHpIEUCoEpOpUoHIEUHoIpEUNGoKAPYEOUNMIEUM",
   "wPHIEUPHxIEUPwSSANGPIEUPpHIEUKHpIYEOKu-SIOSoMIEUMt-PANSIOSvIEUPuSIOSoNIEUNt-CIEUCuHIEUH",
   "uPANSIOSuSIOSuTIKEUToOpEoPANSIOSpHIEUPHpIEUPt-CIEUCuKIYEOKuSIOSy-KIYEOKzTIKEUTuTHIEUTHvIKEUT",
   "oRIEULt-HIEUHuKIYEOKzb-SIOSuMIEUMuPANSIOSvHIEUPHvIEUPz-SIOSuSIOSuTHIEUTHvIKEUTuYEORINHIEUH",
   "oSIOSs-CIEUCtKIYEOKtNIEUNtPIEUPtTIKEUTpSANGCIEUCtHIEUHtIEUNGtKIYEOKtNIEUNtPIEUPtSIOStTIKEUT",
   "oTHIEUTHpIKEUToUoWAqEpEqOpIoYAqEpEqOrRINHIEUHqSIEUNGw-PANSIOSxSIOSpIpOq-IrYAtEpUq-IrYEtO",
   "hSINGLE DOT TONE MARKeZHOU NUMERAL EIGHTrFIVEsOURrNINErONErSEVENsIXrTENsHIRTYtREEsWENTYtO",
   "dIFI ROHINGYA DIGIT EIGHTwFIVExOURwNINEwONEwSEVENxIXwTHREExWOwZEROqLETTER AxBAxCAxDAyDAxFAxGA",
   "xHAxJAxKAyHAyINNA WAzeYAxLAxMAxNAyGAyYAxPAxRAyRAxSAyHAxTAyTAxVAxWAxYAxZAqMARK NA KHONNAvSAKIN",
   "qSIGN HARBAHAYvTAHALAxNAxSSIqVOWEL AwEwIwOwUdUNOO LETTER ApBApDApGApHApIpKApLApMApNAqGApPApRA",
   "pSApTApUpWApYAiSIGN PAMUDPODiVOWEL SIGN ItUcPPY PERSON RAISING ONE HANDcRD DISKcTCHING CHICK",
   "dRAN LETTER ALEPHpYNoBETHoDALETH-RESHoGIMELoHEqTHoKAPHoLAMEDHoMEMoNUNoPEoQOPHoSADHEqMEKHpHIN",
   "oTAWpETHoWAWoYODHoZAYNhNUMBER FIVEoONEr HUNDREDoTENpWENTYbEADPHONEeSTONEj GRAVEYARD SYMBOL",
   "dR-NO-EVIL MONKEYeT DECORATIONgHANDSgWITH ARROWlRIBBONlTIP ON THE LEFTdVY AMPERSAND ORNAMENT",
   "hRROW SHAFT WIDTH ONEzc HALFzdTHIRDyTWO THIRDShSTERISKgBALLOT X",
   "hLACK CURVED DOWNWARDS AND RIGHTWARDS ARROWtUPWARDS AND RIGHTWARDS ARROWmHEART",
   "l-FEATHERED NORTH EAST ARROWwRIGHTWARDS ARROWwSOUTH EAST ARROWgCHECK MARKjVRON SNOWFLAKEhIRCLE",
   "m WITH CIRCLE INSIDEsSTROKE AND TWO DOTS ABOVEmD SALTIREhONCAVE-POINTED BLACK RIGHTWARDS ARROW",
   "gDASHED TRIANGLE-HEADED RIGHTWARDS ARROWhIVISION SIGNhOLLAR SIGN",
   "iUBLE COMMA QUOTATION MARK ORNAMENTnTURNED COMMA QUOTATION MARK ORNAMENT",
   "iWNWARDS ARROW WITH EQUILATERAL ARROWHEADzcLARGE EQUILATERAL ARROWHEAD",
   "gEIGHT POINTED BLACK STARuPINWHEEL STARuRECTILINEAR BLACK STARmSPOKED ASTERISK",
   "mTEARDROP-SPOKED PROPELLER ASTERISKhQUALS SIGNhXCLAMATION MARK ORNAMENTxSYMBOL",
   "gFIVE POINTED BLACK STARlSPOKED ASTERISKhOUR BALLOON-SPOKED ASTERISKgGREEK CROSS",
   "gHEART EXCLAMATION MARK ORNAMENThORIZONTAL FILLgINTERROBANG ORNAMENTgLARGE CIRCLEiTIN CROSS",
   "hEFT-POINTING ANGLE BRACKET ORNAMENTzbQUOTATION MARK ORNAMENT",
   "kWARDS ARROW WITH EQUILATERAL ARROWHEADzcLARGE EQUILATERAL ARROWHEADhIGATURE OPEN ET ORNAMENT",
   "hOW DOUBLE COMMA QUOTATION MARK ORNAMENTkSINGLE COMMA QUOTATION MARK ORNAMENT",
   "jER RIGHT-SHADOWED WHITE RIGHTWARDS ARROWgMINUS SIGNhULTIPLICATION XgNORTH EAST ARROW",
   "rPOINTING BUDzbVINE LEAFmWEST POINTING BUDzbVINE LEAFgOPEN CENTRE CROSShUTLINED BLACK STAR",
   "hVAL WITH OVAL INSIDEgPLUS SIGNgRIGHT-POINTING ANGLE BRACKET ORNAMENTzcQUOTATION MARK ORNAMENT",
   "lWARDS ARROWw WITH EQUILATERAL ARROWHEADzdLARGE EQUILATERAL ARROWHEAD",
   "hOUND-TIPPED RIGHTWARDS ARROWgSALTIREiNS-SERIF INTERROBANG ORNAMENThCRIPT LIGATURE ET ORNAMENT",
   "hINGLE COMMA QUOTATION MARK ORNAMENTnTURNED COMMA QUOTATION MARK ORNAMENTiX POINTED BLACK STAR",
   "kSPOKED ASTERISKhOUTH EAST ARROWrPOINTING BUDzbVINE LEAFmWEST POINTING BUDzbVINE LEAFhPARKLE",
   "gTEARDROP-SHANKED RIGHTWARDS ARROWqPOKED ASTERISKwPINWHEEL ASTERISK",
   "hRIANGLE-HEADED RIGHTWARDS ARROWhWELVE POINTED BLACK STARvPINWHEEL STAR",
   "gUPPER RIGHT-SHADOWED WHITE RIGHTWARDS ARROWiWARDS ARROW WITH EQUILATERAL ARROWHEAD",
   "zLARGE EQUILATERAL ARROWHEADgVERTICAL BARgWEDGE-TAILED RIGHTWARDS ARROWhHITE CIRCLE",
   "mDOWN-POINTING TRIANGLEmSQUAREhIDE-HEADED RIGHTWARDS ARROWcBREW ACCENT ATNAH HAFUKHoDARGApEHI",
   "oETNAHTAoGERESHu MUQDAMrSHAYIMoILUYoMAHAPAKHpERKHAu KEFULApUNAHoOLEoPASHTAqZERoQADMAqRNEY PARA",
   "oREVIAoSEGOLpHALSHELEToTELISHA GEDOLAwQETANAqVIRpIPEHAoYERAH BEN YOMOqTIVoZAQEF GADOLuQATAN",
   "qRQApINORhLETTER ALEFs WITH MAPIQyPATAHyQAMATSqTERNATIVE AYINzbPLUS SIGNpYINoBETr WITH DAGESH",
   "xRAFEoDALETt WITH DAGESHoFINAL KAFx WITH DAGESHuMEMuNUNuPEw WITH DAGESHuTSADIoGIMEL",
   "t WITH DAGESHoHEq WITH MAPIQqToKAFr WITH DAGESHxRAFEoLAMEDt WITH DAGESHoMEMr WITH DAGESHoNUN",
   "r WITH DAGESHoPEq WITH DAGESHwRAFEoQOFr WITH DAGESHoRESHs WITH DAGESHoSAMEKHu WITH DAGESHpHIN",
   "s WITH DAGESHzf AND SHIN DOTzlIN DOTySHIN DOTzIN DOToTAVr WITH DAGESHpETr WITH DAGESHpSADI",
   "t WITH DAGESHoVAVr WITH DAGESHxHOLAMoWIDE ALEFtDALETtFINAL MEMtHEtKAFtLAMEDtRESHtTAVoYOD",
   "r WITH DAGESHxHIRIQoZAYINt WITH DAGESHiIGATURE ALEF LAMEDqYIDDISH DOUBLE VAVzgYODyVAV YOD",
   "yYOD YOD PATAHhMARK LOWER DOTmMASORA CIRCLEmUPPER DOThPOINT DAGESH OR MAPIQnHATAF PATAHtQAMATS",
   "tSEGOLoIRIQoOLAMs HASER FOR VAVnJUDEO-SPANISH VARIKAnMETEGnPATAHnQAMATSt QATANoUBUTSnRAFE",
   "nSEGOLoHEVApIN DOToIN DOTnTSEREiUNCTUATION GERESHwSHAYIMtMAQAFtNUN HAFUKHAtPASEQtSOF PASUQ",
   "hYOD TRIANGLEcDGEHOGcLICOPTERdLSCHREIBER PAUSE SYMBOLdM SYMBOLeET WITH WHITE CROSS",
   "cNTAIGANA LETTER A-1u2u3uWOsE-1u2u3u4u5u6sHA-1w0w1v2v3v4v5v6v7v8v9tE-1v2v3v4v5v6v7tI-1v2v3v4v5",
   "v6v7tO-1v2v3v4v5v6v7v8tU-1v2v3sI-1u2u3u4sKA-1w0w1v2v3v4v5v6v7v8v9vKEtE-1v2v3v4v5v6tI-1v2v3v4v5",
   "v6v7v8tO-1v2v3vKItU-1v2v3v4v5v6v7sMA-1v2v3v4v5v6v7tE-1v2vMAtI-1v2v3v4v5v6v7tO-1v2v3v4v5v6tU-1",
   "v2v3v4sN-MU-MO-1zb2tA-1v2v3v4v5v6v7v8v9tE-1v2v3v4v5v6vKOtI-1v2v3v4v5v6v7vTEtO-1v2v3v4v5tU-1v2",
   "v3sO-1u2u3sRA-1v2v3v4tE-1v2v3v4tI-1v2v3v4v5v6v7tO-1v2v3v4v5v6tU-1v2v3v4v5v6sSA-1v2v3v4v5v6v7v8",
   "tE-1v2v3v4v5tI-1v2v3v4v5v6tO-1v2v3v4v5v6v7tU-1v2v3v4v5v6v7v8sTA-1v2v3v4tE-1v2v3v4v5v6v7v8v9",
   "tI-1v2v3v4v5v6v7tO-1v2v3v4v5v6vRAtU-1v2v3v4vTOsU-1u2u3u4u5sWA-1v2v3v4v5tE-1v2v3v4tI-1v2v3v4v5",
   "tO-1v2v3v4v5v6v7sYA-1v2v3v4v5vYOtO-1v2v3v4v5v6tU-1v2v3v4cRBdMITIAN CONJUGATE MATRIX",
   "cXAGRAM FOR ABUNDANCEoFTER COMPLETIONoPPROACHnBEFORE COMPLETIONoITING THROUGHoREAKTHROUGH",
   "nCOMING TO MEETpNFLICTqTEMPLATIONnDARKENING OF THE LIGHToECREASEpLIVERANCEpVELOPMENT",
   "oIFFICULTY AT THE BEGINNINGpSPERSIONoURATIONnENTHUSIASMnFELLOWSHIPoOLLOWINGnGATHERING TOGETHER",
   "oRACEpEAT POSSESSIONvWERuREPONDERANCEtTAMINGnHOLDING TOGETHERnINCREASEpFLUENCEpNER TRUTH",
   "qOCENCEnLIMITATIONnMODESTYpUTH CORNERSnOBSTRUCTIONoPPOSITIONqRESSIONnPEACEoROGRESS",
   "oUSHING UPWARDnRETREATqURNpVOLUTIONnSMALL PREPONDERANCEtTAMINGoPLITTING APARToTANDSTILL",
   "nTHE ABYSMAL WATERsRMYtOUSING THUNDERrCAULDRONsLINGING FIREsREATIVE HEAVENrFAMILYrGENTLE WIND",
   "rJOYOUS LAKErKEEPING STILL MOUNTAINrMARRYING MAIDENrRECEPTIVE EARTHrWANDERERsELLoREADING",
   "nWAITINGoORK ON THE DECAYEDnYOUTHFUL FOLLYbIBISCUScGH BRIGHTNESS SYMBOLfOCTET PRESET",
   "fVOLTAGE SIGNe-HEELED SHOEfSPEED TRAINq WITH BULLET NOSEcKING BOOTcNDU TEMPLEcPPOPOTAMUS",
   "cRAGANA DIGRAPH YORIjITERATION MARKjLETTER ArRCHAIC WUyYEqBArErIrOrUqDArErIrOrUqEqGArErIrOrU",
   "qHArErIrOrUqIqKArErIrOrUqMArErIrOrUqNrArErIrOrUqOqPArErIrOrUqRArErIrOrUqSArErIrMALL AwEwIwKAxE",
   "wOwTUwUwWAxExIxOwYAxOxUrOrUqTArErIrOrUqUqVUqWArErIrOqYArOrUqZArErIrOrUjVOICED ITERATION MARK",
   "cSTORIC SITEbOCHOcLEdLOW QUILT SQUARE ORNAMENTzd IN BLACK SQUAREcMOTHETICcNEY POTfBEEcOKcP",
   "cRIZONTAL BARmLACK HEXAGONrOCTAGONlELLIPSISlLINE EXTENSIONlMALE WITH STROKE SIGN",
   "lONE EIGHTH BLOCK-1358zd2zd3zd4zd5zd6zd7lSCAN LINE-1v3v7v9lTAB KEYoULATIONv SET",
   "wWITH JUSTIFICATIONmRAFFIC LIGHTdSEf FACEgRACINGcSPITALcT BEVERAGEeDOGePEPPEReSPRINGSdEL",
   "cURGLASSj WITH FLOWING SANDdSEf BUILDINGoSgWITH GARDENbRYVNIA SIGNbTcJcSbUGGING FACE",
   "cNDRED POINTS SYMBOLcSHED FACEcTbYGIEAcPHENg BULLEThWITH DIAERESISg-MINUSgATION POINT",
   "dODIASTOLEcSTERESIS SYMBOLaI LOVE YOU HAND SIGNbCE CREAMfUBEeHOCKEY STICK AND PUCKeSKATE",
   "bDENTICAL TOm AND SLANTED PARALLELkWITH DOT ABOVEgFICATION CARD",
   "dOGRAPHIC ANNOTATION BOTTOM MARKxEARTH MARKxFIRST MARKyOUR MARKzcTH MARKxHEAVEN MARK",
   "xLINKING MARKxMAN MARKyIDDLE MARKxONE MARKxREVERSE MARKxSECOND MARKxTHIRD MARKzREE MARK",
   "yOP MARKyWO MARKmCLOSING MARKnOMMAmDEPARTING TONE MARKoSCRIPTION CHARACTER ABOVE TO BELOW",
   "zsMIDDLE AND BELOWzjFULL SURROUNDzjLEFT TO MIDDLE AND RIGHTzrRIGHTzjOVERLAID",
   "zjSURROUND FROM ABOVEzxBELOWzxLEFTzyOWER LEFTzxUPPER LEFTzzeRIGHTmENTERING TONE MARKmFULL STOP",
   "mHALF FILL SPACEmITERATION MARKmLEVEL TONE MARKmNUMBER ZEROmRISING TONE MARKmSPACE",
   "mTALLY MARK FIVEyOURxONExTHREEyWOnELEGRAPH LINE FEED SEPARATOR SYMBOLwSYMBOL FOR APRILzjUGUST",
   "ziDAY EIGHTzrEENznLEVENzmFIFTEENzoVEznOURzqTEENzmNINEzqTEENzmONEzmSEVENzrTEENznIXzpTEENzmTEN",
   "znHIRTEENzrYzs-ONEzoREEznWELVEzpNTYzs-EIGHTztFIVEzuOURztNINEztONEztSEVENzuIXztTHREEzuWOzoO",
   "zjECEMBERziFEBRUARYziHOUR EIGHTzsEENzoLEVENznFIFTEENzpVEzoOURzrTEENznNINEzrTEENznONEznSEVEN",
   "zsTEENzoIXzqTEENznTENzoHIRTEENzpREEzoWELVEzqNTYzt-FOURzuONEzuTHREEzvWOzpOznZEROziJANUARYzjULY",
   "zkNEziMARCHzkYziNOVEMBERziOCTOBERziSEPTEMBERmVARIATION INDICATORbMAGE OF",
   "i OR APPROXIMATELY EQUAL TOcPdERIAL ARAMAIC LETTER ALEPHzYINyBETHyDALETHyGIMELyHEzbTHyKAPH",
   "yLAMEDHyMEMyNUNyPEyQOPHyRESHySADHEzbMEKHzHINyTAWzETHyWAWyYODHyZAYINrNUMBER ONEzc HUNDRED",
   "zdTHOUSANDyTENzc THOUSANDzHREEzWENTYzbOrSECTION SIGNbNBOX TRAYcCOMING ENVELOPEfPLETE INFINITY",
   "dREASE FONT SIZE SYMBOLiS ASfMENTcDdEXf POINTING AT THE VIEWERdIAN RUPEE SIGN",
   "eC SIYAQ ALTERNATE LAKH MARKmFRACTION ONE HALFzQUARTERvTHREE QUARTERSmLAKH MARK",
   "mNUMBER ALTERNATE ONEzeTEN THOUSANDzfWOtEIGHTy HUNDREDzTHOUSANDyYz THOUSANDtFIFTYy THOUSANDvVE",
   "x HUNDREDyTHOUSANDuORTYy THOUSANDvURx HUNDREDyTHOUSANDtKARORyANtLAKHxANtNINEx HUNDREDyTHOUSAND",
   "xTYz THOUSANDtONEw HUNDREDxTHOUSANDtPREFIXED EIGHTzdFIVEzeOURzdNINEzdONEzdSEVENzeIXzdTHREEzeWO",
   "tSEVENy HUNDREDzTHOUSANDyTYzb THOUSANDuIXw HUNDREDxTHOUSANDwTYy THOUSANDtTENw THOUSANDuHIRTY",
   "z THOUSANDvREEy HUNDREDzTHOUSANDuWENTYz THOUSANDvOw HUNDREDxTHOUSANDmPLACEHOLDERmRUPEE MARK",
   "cFINITYi NEGATED WITH VERTICAL BARdORMATION DESK PERSONmSEPARATOR FOURwONEwTHREExWOnOURCE",
   "cHIBIT ARABIC FORM SHAPINGiSYMMETRIC SWAPPINGcPUT SYMBOL FOR LATIN CAPITAL LETTERSxLETTERS",
   "xSMALL LETTERSrNUMBERSrSYMBOLScSCRIPTIONAL PAHLAVI LETTER ALEPHzeBETHzeDALETHzeGIMELzeHEzgTH",
   "zeKAPHzeLAMEDHzeMEM-QOPHzeNUNzePEzeSADHEzgMEKHzfHINzeTAWzfETHzeWAW-AYIN-RESHzeYODHzeZAYIN",
   "wNUMBER FOURzeONEzh HUNDREDziTHOUSANDzeTENzfHREEzfWENTYzgOqRTHIAN LETTER ALEPHzgYINzfBETH",
   "zfDALETHzfGIMELzfHEzhTHzfKAPHzfLAMEDHzfMEMzfNUNzfPEzfQOPHzfRESHzfSADHEzhMEKHzgHINzfTAWzgETH",
   "zfWAWzfYODHzfZAYINxNUMBER FOURzfONEzi HUNDREDzjTHOUSANDzfTENzgHREEzgWENTYzhOdERTION SYMBOL",
   "cTEGRALi AROUND A POINT OPERATORkVERAGE WITH SLASHjEXTENSIONjWITH DOUBLE STROKEoINTERSECTION",
   "oLEFTWARDS ARROW WITH HOOKoOVERBARoTIMES SIGNoUNDERBARqIONeRCALATEfIOR PRODUCT",
   "fLINEAR ANNOTATION ANCHORxSEPARATORxTERMINATORgOCKED FEMALE AND MALE SIGNfROBANGfSECTION",
   "m ABOVE BAR ABOVE UNIONtUNIONnBESIDE AND JOINED WITH INTERSECTIONnWITH DOTsLOGICAL ANDsOVERBAR",
   "cVERSE BULLETiCHECK MARKnER BOARD FILLiDOWNWARDS ARROW WITH TIP LEFTWARDSiMEDIUM SHADE",
   "iWHITE CIRCLEfTED EXCLAMATION MARKjINTERROBANGjLAZY SkOW KAVYKAt WITH KAVYKA ABOVEjOHM SIGN",
   "jPENTAGRAMjQUESTION MARKjUNDERTIEdISIBLE PLUSkSEPARATORkTIMESbZAKAYA LANTERNaJACK-O-LANTERN",
   "cPANESE BANK SYMBOLjCASTLEjDOLLSjGOBLINjINDUSTRIAL STANDARD SYMBOLjOGREjPOST OFFICE",
   "jSYMBOL FOR BEGINNERcRcVANESE CONSONANT SIGN CAKRAyKERETyPENGKALjDIGIT EIGHTpFIVEqOURpNINEpONE",
   "pSEVENqIXpTHREEqWOpZEROjLEFT RERENGGANlTTER ArIqBAs MURDAqCAs MURDAqDAs MAHAPRANArDA",
   "t MAHAPRANAqEqGAs MURDAqHAqIr KAWIrIqJAs MAHAPRANAqKAs MURDAtSASAKqLAqMAqNAs MURDArGAt LELET",
   "z RASWADIrYAt MURDAqOqPAs CEREKtMURDAqRAs AGUNGqSAs MAHAPRANAuURDAqTAs MURDArTAt MAHAPRANAqU",
   "qWAqYAjPADA ADEGs ADEGpNDAPoISEN-ISENoLINGSApUHURqNGSIoMADYAoPANGKATpISELEHoTIRTA TUMETES",
   "oWINDUlNGKONnRANGKEPjRIGHT RERENGGANjSIGN CECAKt TELUoLAYARoPANYANGGAoWIGNYAN",
   "jTURNED PADA PISELEHjVOWEL SIGN DIRGA MUREuPEPETuSUKUy MENDUTuTALINGwRUNGvOLONGuWULUy MELIK",
   "bEANSbIGSAW PUZZLE PIECEbOINcYSTICKbUGGLINGcNOcPITERaKAABAcITHI ABBREVIATION SIGNhDANDA",
   "iOUBLE DANDAoSECTION MARKhENUMERATION SIGNhLETTER ApApIpUoBApHAoCApHAoDApDAqDHAqHApHAoEoGApHA",
   "oHAoIpIoJApHAoKApHAoLAoMAoNApGApNApYAoOoPApHAoRApHAoSApHApSAoTApHApTAqHAoUpUoVAoYAhNUMBER SIGN",
   "s ABOVEhSECTION MARKiIGN ANUSVARAmCANDRABINDUmNUKTAmVIRAMAoSARGAhVOWEL SIGN AAtItUsEsItIsOsUtU",
   "sVOCALIC RcNGAROOeXI RADICAL AGAINqNDqRRIVEsOWqXEpBADGERrMBOOqEANqIGrRDrTTERqLACKrOODrUEqOAT",
   "rDYrLT OF CLOTHrNErWqRANCHrISTLErUSHpCARTrULDRONrVEqHILDqITYqLANsWrIFFrOTHESqOLORrMPARErRPSE",
   "rVERrWpDEATHrERqIPPERrSHsTINGUISHrVINATIONqO NOTrGrORrTsTED CLIFFwTENTrUBLE XrWN BOXqRAGONrUM",
   "rYpEARsTHrTqIGHTqMBROIDERYqNCLOSURErTERqVENtINGqYEpFACErNGrTHERqEATHERqIELDrGHTrRErSHqLUTErY",
   "qOOTqRAGRANTrOGqURpGATEqHOSTqOr SLOWLYrLDqRAINsSSpHAIRrLBERDsF TREE TRUNKrNDqEADsRTrMP",
   "qIDING ENCLOSUREqOOKrRNsSEpICEqNCHrSECTpJADErRpKNIFEpLACKrMEqEAFsTHERrEKrGSqIDrFErNEqONG",
   "t STRIDEpMANqEATrLONqILLETrNISTERqOONrRNINGsTARrUNDtTAINsTHpNETqOSErTpOLDqNEsSELFqPEN BOXrPOSE",
   "pPIGqLOWqOWERqRIVATErOFOUNDpRAINrPrTqEDqICErGHT OPEN BOXrVERqOOFqUNpSACRIFICIAL WINErLTrY",
   "qCHOLARrRIPTqEALrCONDrErLFqHEEPsLLrOOTsRT TAILED BIRDwHREADqICKNESSrLKqKINqLASHsVErICEqMALL",
   "qNOUTqOUNDqPEARsECHrIRITrOONrROUTqQUAREqTANDrEAMsPrONEsPtPINGqUNqWEETpTABLErLLrNNED LEATHERqEN",
   "qIGERrLEqONGUErOTHqRACKrEErIPODqURBANsTLEqWOs HANDSpUSEpVALLEYqILLAGEpWALKt ENCLOSURErTER",
   "qEAPONrSTqHEATrITEqINDsEqOMANrRKqRAPrONGpYELLOWdNADA AI LENGTH MARKiDIGIT EIGHToFIVEpOURoNINE",
   "oONEoSEVENpIXoTHREEpWOoZEROiLENGTH MARKkTTER AqAqIqUpBAqHApCAqHApDAqDArHAqHApEqEpFApGAqHApHApI",
   "qIpJAqHApKAqHApLAqLArLApMApNArKAARA POLLUqGAqNAqYApOqOpPAqHApRAqRApSAqHAqSApTAqHAqTArHApUqUpVA",
   "qOCALIC LyLxRyRpYAiSIGN ANUSVARAoVAGRAHAnCANDRABINDUnJIHVAMULIYAnNUKTAnSIDDHAM",
   "oPACING CANDRABINDUnUPADHMANIYAnVIRAMApSARGAiVOWEL SIGN AAuIuUtEuEtIuItOuOtUuUtVOCALIC LzdLzcR",
   "zdRcTAKANA DIGRAPH KOTOjITERATION MARKjLETTER ArRCHAIC EyWUyYEzIqBArErIrOrUqDArErIrOrUqEqGArE",
   "rIrOrUqHArErIrOrUqIqKArErIrOrUqMArErIsNNAN NASALIZED TONE-1zn2zn3zn4zn5zn7zn8xTONE-2zd3zd4zd5",
   "zd7zd8rOrUqNrArErIrOrUqOqPArErIrOrUqRArErIrOrUqSArErIrMALL AwEwHAxExIxOxUwIwKAxExUwMUwNxUwOwRA",
   "xExIxOxUwSIxUwTOxUwUwWAxExIxOwYAxOxUrOrUqTArErIrOrUqUqVArErIrOrUqWArErIrOqYArOrUqZArErIrOrU",
   "jMIDDLE DOTjVOICED ITERATION MARKi-HIRAGANA DOUBLE HYPHENsPROLONGED SOUND MARK",
   "sSEMI-VOICED SOUND MARKsVOICED SOUND MARKcYAH LI DIGIT EIGHTpFIVEqOURpNINEpONEpSEVENqIXpTHREE",
   "qWOpZEROjLETTER AqBAqCAqDAqGAqHArTAqIqKArHAqLAqMAqNArGArYAqOErOqPArHAqRAqSArHAqTArHAqVAqWAqYA",
   "qZAjSIGN CWIoSHYAjTONE CALYAt PLOPHUoPLOPHUjVOWEL EqEpOpUqEbELVIN SIGNcYdBOARDi AND MOUSE",
   "dCAP TENbHAROSHTHI DIGIT FOURrONErTHREEsWOlFRACTION ONE HALFlLETTER AsBAtHAsCAtHAsDAtDAuHAtHA",
   "sGAtHAsHAsJAsKAtHAtKAsLAsMAsNAtNAtYAsPAtHAsRAsSAtHAtSAsTAtHAtTAuHAuTAvHAsVAtHAsYAsZA",
   "lNUMBER ONE HUNDREDwTHOUSANDsTENtWENTYlPUNCTUATION CIRCLEyRESCENT BARxDANDAyOTzUBLE DANDA",
   "xLINESyOTUSxMANGALAMxSMALL CIRCLElSIGN ANUSVARAqBAR ABOVEqCAUDAqDOT BELOWsUBLE RING BELOW",
   "qVISARGAlVIRAMAmOWEL LENGTH MARKrSIGN EwIwOwUwVOCALIC RcITAN SMALL SCRIPT CHARACTER-18B00zj1",
   "zj2zj3zj4zj5zj6zj7zj8zj9zjAzjBzjCzjDzjEzjFzi10zj1zj2zj3zj4zj5zj6zj7zj8zj9zjAzjBzjCzjDzjEzjF",
   "zi20zj1zj2zj3zj4zj5zj6zj7zj8zj9zjAzjBzjCzjDzjEzjFzi30zj1zj2zj3zj4zj5zj6zj7zj8zj9zjAzjBzjCzjD",
   "zjEzjFzi40zj1zj2zj3zj4zj5zj6zj7zj8zj9zjAzjBzjCzjDzjEzjFzi50zj1zj2zj3zj4zj5zj6zj7zj8zj9zjAzjB",
   "zjCzjDzjEzjFzi60zj1zj2zj3zj4zj5zj6zj7zj8zj9zjAzjBzjCzjDzjEzjFzi70zj1zj2zj3zj4zj5zj6zj7zj8zj9",
   "zjAzjBzjCzjDzjEzjFzi80zj1zj2zj3zj4zj5zj6zj7zj8zj9zjAzjBzjCzjDzjEzjFzi90zj1zj2zj3zj4zj5zj6zj7",
   "zj8zj9zjAzjBzjCzjDzjEzjFziA0zj1zj2zj3zj4zj5zj6zj7zj8zj9zjAzjBzjCzjDzjEzjFziB0zj1zj2zj3zj4zj5",
   "zj6zj7zj8zj9zjAzjBzjCzjDzjEzjFziC0zj1zj2zj3zj4zj5zj6zj7zj8zj9zjAzjBzjCzjDzjEzjFziD0zj1zj2zj3",
   "zj4zj5zj6zj7zj8zj9zjAzjBzjCzjDzjEzjFziE0zj1zj2zj3zj4zj5zj6zj7zj8zj9zjAzjBzjCzjDzjEzjFziF0zj1",
   "zj2zj3zj4zj5zj6zj7zj8zj9zjAzjBzjCzjDzjEzjFzhC00zj1zj2zj3zj4zj5zj6zj7zj8zj9zjAzjBzjCzjDzjEzjF",
   "zi10zj1zj2zj3zj4zj5zj6zj7zj8zj9zjAzjBzjCzjDzjEzjFzi20zj1zj2zj3zj4zj5zj6zj7zj8zj9zjAzjBzjCzjD",
   "zjEzjFzi30zj1zj2zj3zj4zj5zj6zj7zj8zj9zjAzjBzjCzjDzjEzjFzi40zj1zj2zj3zj4zj5zj6zj7zj8zj9zjAzjB",
   "zjCzjDzjEzjFzi50zj1zj2zj3zj4zj5zj6zj7zj8zj9zjAzjBzjCzjDzjEzjFzi60zj1zj2zj3zj4zj5zj6zj7zj8zj9",
   "zjAzjBzjCzjDzjEzjFzi70zj1zj2zj3zj4zj5zj6zj7zj8zj9zjAzjBzjCzjDzjEzjFzi80zj1zj2zj3zj4zj5zj6zj7",
   "zj8zj9zjAzjBzjCzjDzjEzjFzi90zj1zj2zj3zj4zj5zj6zj7zj8zj9zjAzjBzjCzjDzjEzjFziA0zj1zj2zj3zj4zj5",
   "zj6zj7zj8zj9zjAzjBzjCzjDzjEzjFziB0zj1zj2zj3zj4zj5zj6zj7zj8zj9zjAzjBzjCzjDzjEzjFziC0zj1zj2zj3",
   "zj4zj5zj6zj7zj8zj9zjAzjBzjCzjDzjEzjFziD0zj1zj2zj3zj4zj5uFILLERcMER CURRENCY SYMBOL RIEL",
   "gDIGIT EIGHTmFIVEnOURmNINEmONEmSEVENnIXmTHREEnWOmZEROgINDEPENDENT VOWEL LYzbYyQAAzbIzbQzbUzEzI",
   "zbIzOO TYPE ONEziTWOzUzbKzbUzcVyRYzbYgLETTER BAnCAoHApOoOnDAoOnHAnKAoHApOoOnLAoOnMOnNGOoNOoO",
   "oYOnPHApOoOnQAnROnSAoHAoSOnTAoHApOoOoTHAqOnVOnYOgSIGN AHSDAmTTHACANmVAKRAHASANYAlBANTOC",
   "nRIYOOSANnTHAMASATmEYYALlCAMNUC PII KUUHmOENGlKAKABATmHANmOOMUUTlLEK TOOlMUUSIKATOANlNIKAHIT",
   "lPHNAEK MUANlREAHMUKmOBATlSAMYOK SANNYAlTOANDAKHIATmRIISAPlVIRIAMlYUUKALEAPINTUhYMBOL BEI KOET",
   "rROCoUON KOETsROCnDAP KOETrROCq-BEI KOETvROCsUON KOETwROCrMUOY KOETwROCrPII KOETvROCsRAM KOET",
   "wROCnLEK ATTAK BEIyUONxMUOYxPIIyRAMzc-BEIzeUONzdMUOYzdPIIxSONnMUOY KOETsROCnPATHAMASAToII KOET",
   "rROCoRAM KOETsROCr-BEI KOETwROCtUON KOETxROCsMUOY KOETxROCsPII KOETwROCnTUTEYASAT",
   "gVOWEL INHERENT AAwQmSIGN AAsEsIsUrErIsEsIrOEsOrUsAsUrYsAsYcOJKI ABBREVIATION SIGNhDANDA",
   "iOUBLE DANDAoSECTION MARKhLETTER ApApIpUoBApBApHAoCApHAoDApDAqDAqHApHAoEoGApGApHAoHAoIoJApJA",
   "oKApHAoLApLAoMAoNApGApNApYAoOoPApHAoRAoSAoTApHApTAqHAoUoVAoYAhSECTION MARKiIGN ANUSVARAmNUKTA",
   "mSHADDAnUKUNmVIRAMAhVOWEL SIGN AAtItUsEsItIsOsUhWORD SEPARATORcUDAWADI DIGIT EIGHTqFIVErOUR",
   "qNINEqONEqSEVENrIXqTHREErWOqZEROkLETTER AsAsIsUrBAsBAsHArCAsHArDAsDAtDAtHAsHArErGAsGAsHArHArI",
   "sIrJAsHAsJArKAsHArLArMArNAsGAsNAsYArOrPAsHArRAsRArSAsHArTAsHAsTAtHArUsUrVArYAkSIGN ANUSVARA",
   "pNUKTApVIRAMAkVOWEL SIGN AAwIwUvEvIwIvOvUwUbIMONOcP SIGNcSSe MARK",
   "eING CAT FACE WITH CLOSED EYESiFACEm WITH CLOSED EYESsSMILING EYEScTEcWIFRUITbNEELING PERSON",
   "cOTbOALAcREAN STANDARD SYMBOLbRONOSaL B BAR SYMBOLbAB COATdELcCROSSE STICK AND BALLcDDER",
   "dY BEETLEcNGUAGE TAGcO CANCELLATION MARKeDIGIT EIGHTkFIVElOURkNINEkONEkSEVENlIXkTHREElWOkZERO",
   "eELLIPSISeHO MOhNOeKO LAeLETTER BOlCOlDOlFO FAYpONoSUNGoTAMlHO SUNGoTAMlKHMU GOqNYOnO SUNGpTAM",
   "mOlLOn LINGpOOTlMOlNGOmOmYOlOlPALI BHAqCHAqDDAsHArHAqGHAqJHAqLLAqNNArYAqTTAsHAmHO SUNGpTAMmO",
   "lROlSANSKRIT SHAvSAmO SUNGoTAMlTHO SUNGpTAMmOlWOlYOeNIGGAHITAeSEMIVOWEL SIGN LOtNYO",
   "fIGN PALI VIRAMAeTONE MAI CATAWAnEKnTHOoIeVOWEL SIGN AqAqIqMqYpEqIpIqIpMAI KANuONpOpUqUpYqY",
   "cRGE BLUE CIRCLElDIAMONDlSQUAREhROWN CIRCLEmSQUAREgCIRCLEgDOWN TACKgGREEN CIRCLEmSQUARE",
   "gLEFT TRIANGLE OPERATORgONE DOT OVER TWO DOTS PUNCTUATIONkRING OVER TWO RINGS PUNCTUATION",
   "hRANGE CIRCLEnDIAMONDnSQUAREgPURPLE CIRCLEnSQUAREgRED CIRCLEkSQUARE",
   "gTRIPLE VERTICAL BAR OPERATORhWO DOTS OVER ONE DOT PUNCTUATIONkRINGS OVER ONE RING PUNCTUATION",
   "gUP TACKgYELLOW CIRCLEnSQUAREfR THANl OR EQUAL TOdI SIGNcST QUARTER MOONr SYMBOLsWITH FACE",
   "cTIN CAPITAL LETTER Aw WITH ACUTEzdBREVEzi AND ACUTEznDOT BELOWznGRAVEznHOOK ABOVEznTILDE",
   "zdCARONzeIRCUMFLEXzn AND ACUTEzsDOT BELOWzsGRAVEzsHOOK ABOVEzsTILDEzdDIAERESISzm AND MACRON",
   "zeOT ABOVEzm AND MACRONzhBELOWzfUBLE GRAVEzdGRAVEzdHOOK ABOVEzdINVERTED BREVEzdMACRONzdOGONEK",
   "zdRING ABOVEzn AND ACUTEziBELOWzdSTROKEzdTILDEwAwEx WITH ACUTEzeMACRONwFRICAN DwLPHA",
   "wNGLICANA WwOwUwVx WITH HORIZONTAL BARwYvBw WITH DOT ABOVEzhBELOWzdFLOURISHzdHOOKzdLINE BELOW",
   "zdSTROKEzdTOPBARwETAwROKEN LvCw WITH ACUTEzdBARzdCARONzeEDILLAzk AND ACUTEzeIRCUMFLEX",
   "zdDOT ABOVEzdHOOKzdPALATAL HOOKzdSTROKEwHIwLOSED INSULAR GwONwUATRILLOzf WITH COMMAvD",
   "w WITH CARONzeEDILLAzeIRCUMFLEX BELOWzdDOT ABOVEzhBELOWzdHOOKzdLINE BELOW",
   "zdSHORT STROKE OVERLAYzeMALL LETTER Zzr WITH CARONzeTROKEzdTOPBARwZx WITH CARONvEw WITH ACUTE",
   "zdBREVEzdCARONzeEDILLAzk AND BREVEzeIRCUMFLEXzn AND ACUTEzsDOT BELOWzsGRAVEzsHOOK ABOVEzsTILDE",
   "zoBELOWzdDIAERESISzeOT ABOVEzhBELOWzfUBLE GRAVEzdGRAVEzdHOOK ABOVEzdINVERTED BREVEzdMACRON",
   "zj AND ACUTEzoGRAVEzdOGONEKzdSTROKEzdTILDEzi BELOWwGYPTOLOGICAL AINzlLEFwNGwSHwTxHwZH",
   "y REVERSEDzWITH CARONvFw WITH DOT ABOVEzdHOOKzdSTROKEvGw WITH ACUTEzdBREVEzdCARONzeEDILLA",
   "zeIRCUMFLEXzdDOT ABOVEzdHOOKzdMACRONzdOBLIQUE STROKEzdSTROKEwAMMAwHAwLOTTAL AzeIzeSTOPzeUvH",
   "w WITH BREVE BELOWzdCARONzeEDILLAzeIRCUMFLEXzdDESCENDERzeIAERESISzeOT ABOVEzhBELOWzdHOOK",
   "zdSTROKEwALF HwENGwWAIRvIw WITH ACUTEzdBREVEzdCARONzeIRCUMFLEXzdDIAERESISzm AND ACUTE",
   "zeOT ABOVEzhBELOWzfUBLE GRAVEzdGRAVEzdHOOK ABOVEzdINVERTED BREVEzdMACRONzdOGONEKzdSTROKE",
   "zdTILDEzi BELOWwNSULAR DzeFzeGzeRzeSzeTwOTAwSvJw WITH CIRCUMFLEXzeROSSED-TAILzdSTROKEvK",
   "w WITH ACUTEzdCARONzeEDILLAzdDESCENDERzeIAGONAL STROKEzeOT BELOWzdHOOKzdLINE BELOW",
   "zdOBLIQUE STROKEzdSTROKEzj AND DIAGONAL STROKEvLw WITH ACUTEzdBARzeELTzdCARONzeEDILLA",
   "zeIRCUMFLEX BELOWzdDOT BELOWzm AND MACRONzfUBLE BARzdHIGH STROKEzdLINE BELOWzdMIDDLE DOT",
   "zkTILDEzdSMALL LETTER JzeTROKEwJvMw WITH ACUTEzdDOT ABOVEzhBELOWzdHOOKwIDDLE SCOTS S",
   "zc-WELSH LLzjVvNw WITH ACUTEzdCARONzeEDILLAzeIRCUMFLEX BELOWzdDESCENDERzeOT ABOVEzhBELOW",
   "zdGRAVEzdLEFT HOOKzeINE BELOWzeONG RIGHT LEGzdOBLIQUE STROKEzdSMALL LETTER JzdTILDEwJvO",
   "w WITH ACUTEzdBREVEzdCARONzeIRCUMFLEXzn AND ACUTEzsDOT BELOWzsGRAVEzsHOOK ABOVEzsTILDE",
   "zdDIAERESISzm AND MACRONzeOT ABOVEzm AND MACRONzhBELOWzfUBLE ACUTEzkGRAVEzdGRAVEzdHOOK ABOVE",
   "zfRNzh AND ACUTEzmDOT BELOWzmGRAVEzmHOOK ABOVEzmTILDEzdINVERTED BREVEzdLONG STROKE OVERLAYzfOP",
   "zdMACRONzj AND ACUTEzoGRAVEzeIDDLE TILDEzdOGONEKzj AND MACRONzdSTROKEzj AND ACUTEzdTILDE",
   "zi AND ACUTEznDIAERESISznMACRONwIwLD POLISH OwMEGAwOwPEN EzbOwUvPw WITH ACUTEzdDOT ABOVE",
   "zdFLOURISHzdHOOKzdSQUIRREL TAILzeTROKEzj THROUGH DESCENDERvQw WITH DIAGONAL STROKE",
   "zdSTROKE THROUGH DESCENDERvRw ROTUNDAxWITH ACUTEzdCARONzeEDILLAzdDOT ABOVEzhBELOWzm AND MACRON",
   "zfUBLE GRAVEzdINVERTED BREVEzdLINE BELOWzdOBLIQUE STROKEzdSTROKEzdTAILwEVERSED C WITH DOTzfE",
   "zfHALF HzfOPEN EwUM ROTUNDAvSw WITH ACUTEzi AND DOT ABOVEzdCARONzi AND DOT ABOVEzeEDILLA",
   "zeIRCUMFLEXzeOMMA BELOWzdDOT ABOVEzhBELOWzm AND DOT ABOVEzdHOOKzdOBLIQUE STROKE",
   "zdSHORT STROKE OVERLAYzeWASH TAILwALTILLOwCHWAxRIPT GwHARP SwIGMOID SwMALL CAPITAL I",
   "zcQ WITH HOOK TAILvTw WITH CARONzeEDILLAzeIRCUMFLEX BELOWzeOMMA BELOWzdDIAGONAL STROKE",
   "zeOT ABOVEzhBELOWzdHOOKzdLINE BELOWzdRETROFLEX HOOKzdSTROKEwHORNzb WITH STROKE",
   "zn THROUGH DESCENDERwONE FIVEzbSIXzbTWOwRESILLOwURNED AzeLPHAzdHzdINSULAR GzdKzdLzdMzdTzdVwZvU",
   "w BARxWITH ACUTEzdBREVEzdCARONzeIRCUMFLEXzn BELOWzdDIAERESISzm AND ACUTEzrCARONzrGRAVEzrMACRON",
   "znBELOWzeOT BELOWzfUBLE ACUTEzkGRAVEzdGRAVEzdHOOK ABOVEzfRNzh AND ACUTEzmDOT BELOWzmGRAVE",
   "zmHOOK ABOVEzmTILDEzdINVERTED BREVEzdMACRONzj AND DIAERESISzdOGONEKzdRING ABOVEzdSTROKEzdTILDE",
   "zi AND ACUTEzjBELOWwPSILONvVw WITH DIAGONAL STROKEzeOT BELOWzdHOOKzdTILDEwENDwISIGOTHIC Z",
   "wOLAPUK AEzeOEzeUEwYvWw WITH ACUTEzdCIRCUMFLEXzdDIAERESISzeOT ABOVEzhBELOWzdGRAVEzdHOOKwYNNvX",
   "w WITH DIAERESISzeOT ABOVEvYw WITH ACUTEzdCIRCUMFLEXzdDIAERESISzeOT ABOVEzhBELOWzdGRAVEzdHOOK",
   "zh ABOVEzdLOOPzdMACRONzdSTROKEzdTILDEwOGHvZw WITH ACUTEzdCARONzeIRCUMFLEXzdDESCENDERzeOT ABOVE",
   "zhBELOWzdHOOKzdLINE BELOWzdPALATAL HOOKzdSTROKEzeWASH TAILpIGATURE IJxOEhROSS",
   "gEPIGRAPHIC LETTER ARCHAIC MyI LONGAzNVERTED MyREVERSED FziPySIDEWAYS IgLETTER AIN",
   "oLVEOLAR CLICKnBIDENTAL PERCUSSIVEpLABIAL CLICKwPERCUSSIVEnDENTAL CLICKnGLOTTAL STOP",
   "z WITH STROKEnINVERTED GLOTTAL STOPzj WITH CURLzpSTROKEnLATERAL CLICK",
   "nPHARYNGEAL VOICED FRICATIVEnRETROFLEX CLICKzd WITH RETROFLEX HOOKpVERSED ESH LOOP",
   "wGLOTTAL STOP WITH STROKEnSINOLOGICAL DOToMALL CAPITAL AzdEzcBzdARRED BzcCzcDzcEzdTHzdZHzcFzcG",
   "zd WITH HOOKzcHzcIzdNVERTED RzcJzcKzcLzd WITH BELTzjSTROKEzcMzcNzcOzdEzdPEN OzdUzcPzcQzcR",
   "zd WITH RIGHT LEGzdEVERSED NzlRzdUMzcSzcTzdURNED EzjGzjKzjMzjRzcUzcVzcWzcYzcZoTRETCHED C",
   "y WITH CURLnTWO WITH STROKEnVOICED LARYNGEAL SPIRANTnWYNNnYR",
   "gSMALL CAPITAL LETTER I WITH STROKEzcU WITH STROKEmLETTER Au REVERSED-SCHWAvWITH ACUTEzbBREVE",
   "zg AND ACUTEzlDOT BELOWzlGRAVEzlHOOK ABOVEzlTILDEzbCARONzcIRCUMFLEXzl AND ACUTEzqDOT BELOW",
   "zqGRAVEzqHOOK ABOVEzqTILDEzbDIAERESISzk AND MACRONzcOT ABOVEzk AND MACRONzfBELOWzdUBLE GRAVE",
   "zbGRAVEzbHOOK ABOVEzbINVERTED BREVEzbMACRONzbOGONEKzbRETROFLEX HOOKzcIGHT HALF RINGzdNG ABOVE",
   "zl AND ACUTEzgBELOWzbSTROKEzbTILDEuAuEv WITH ACUTEzcMACRONuLPHAy WITH RETROFLEX HOOK",
   "uNGLICANA WuOuUuVv WITH HORIZONTAL BARuYtBu WITH DOT ABOVEzfBELOWzbFLOURISHzbHOOKzbLINE BELOW",
   "zbMIDDLE TILDEzbPALATAL HOOKzbSTROKEzbTOPBARuARRED ALPHAzbEzbOvSELINE ESHuETAuLACKLETTER EzgO",
   "zh WITH STROKEuOTTOM HALF OuROKEN LtCu WITH ACUTEzbBARzbCARONzcEDILLAzi AND ACUTEzcIRCUMFLEX",
   "zcURLzbDOT ABOVEzbHOOKzbPALATAL HOOKzbRETROFLEX HOOKzbSTROKEuHIw WITH LOW LEFT SERIF",
   "zhRIGHT RINGuLOSED INSULAR GzbOMEGAzcPEN EzbREVERSED OPEN EuONuUATRILLOzd WITH COMMAtD",
   "u WITH CARONzcEDILLAzcIRCUMFLEX BELOWzcURLzbDOT ABOVEzfBELOWzbHOOKzf AND TAILzbLINE BELOW",
   "zbMIDDLE TILDEzbPALATAL HOOKzbSHORT STROKE OVERLAYzcTROKEzbTAILzcOPBARuB DIGRAPHuELTA",
   "vZH DIGRAPHzg WITH PALATAL HOOKzmRETROFLEX HOOKuOTLESS IzcJzd WITH STROKEzp AND HOOKvUBLE R",
   "zc WITH CROSSED-TAILzbTHORNzbWYNNuUMuZv DIGRAPHze WITH CURLzkRETROFLEX HOOKwWITH CARONtE",
   "u WITH ACUTEzbBREVEzbCARONzcEDILLAzi AND BREVEzcIRCUMFLEXzl AND ACUTEzqDOT BELOWzqGRAVE",
   "zqHOOK ABOVEzqTILDEzmBELOWzbDIAERESISzcOT ABOVEzfBELOWzdUBLE GRAVEzbFLOURISHzbGRAVE",
   "zbHOOK ABOVEzbINVERTED BREVEzbMACRONzh AND ACUTEzmGRAVEzbNOTCHzbOGONEKzbRETROFLEX HOOKzbSTROKE",
   "zbTILDEzg BELOWuGYPTOLOGICAL AINzjLEFuNGw WITH CROSSED-TAILzdPALATAL HOOKuSHw WITH CURL",
   "zdDOUBLE BARzn AND CURLzdPALATAL HOOKzdRETROFLEX HOOKuTvHuZHw REVERSEDxWITH CARONzeURL",
   "zdPALATAL HOOKzdRETROFLEX HOOKzdTAILtFu WITH DOT ABOVEzbHOOKzbMIDDLE TILDEzbPALATAL HOOK",
   "zbSTROKEuENG DIGRAPHzg WITH TRILLtGu WITH ACUTEzbBREVEzbCARONzcEDILLAzcIRCUMFLEXzbDOT ABOVE",
   "zbHOOKzbMACRONzbOBLIQUE STROKEzbPALATAL HOOKzbSTROKEuAMMAuHAuLOTTAL AzcIzcSTOPzcUtH",
   "u WITH BREVE BELOWzbCARONzcEDILLAzcIRCUMFLEXzbDESCENDERzcIAERESISzcOT ABOVEzfBELOWzbHOOK",
   "zbLINE BELOWzbPALATAL HOOKzbSTROKEuALF HuENGx WITH HOOKuVtIu WITH ACUTEzbBREVEzbCARON",
   "zcIRCUMFLEXzbDIAERESISzk AND ACUTEzcOT BELOWzdUBLE GRAVEzbGRAVEzbHOOK ABOVEzbINVERTED BREVE",
   "zbMACRONzbOGONEKzbRETROFLEX HOOKzbSTROKEzh AND RETROFLEX HOOKzbTILDEzg BELOWuNSULAR DzcFzcGzcR",
   "zcSzcTvVERTED ALPHAzdOEuOTAx WITH STROKEwIFIED EuStJu WITH CARONzcIRCUMFLEXzcROSSED-TAIL",
   "zbSTROKEtKu WITH ACUTEzbCARONzcEDILLAzbDESCENDERzcIAGONAL STROKEzcOT BELOWzbHOOKzbLINE BELOW",
   "zbOBLIQUE STROKEzbPALATAL HOOKzbSTROKEzh AND DIAGONAL STROKEuRAtLu WITH ACUTEzbBARzcELT",
   "zf AND PALATAL HOOKzbCARONzcEDILLAzcIRCUMFLEX BELOWzcURLzbDOT BELOWzk AND MACRONzdUBLE BAR",
   "ziMIDDLE TILDEzbFISHHOOKzbHIGH STROKEzbINVERTED LAZY SzbLINE BELOWzbMIDDLE DOTziRINGziTILDE",
   "zbPALATAL HOOKzbRETROFLEX HOOKzp AND BELTzbSTROKEuAMBDA WITH STROKEuENIS FvZH",
   "x WITH RETROFLEX HOOKuJuONG Sz WITH DIAGONAL STROKEzhOT ABOVEzgHIGH STROKEuS DIGRAPHuUM",
   "uZ DIGRAPHtMu WITH ACUTEzbCROSSED-TAILzbDOT ABOVEzfBELOWzbHOOKzbMIDDLE TILDEzbPALATAL HOOK",
   "uIDDLE SCOTS Sz-WELSH LLzhVuUMtNu PRECEDED BY APOSTROPHEvWITH ACUTEzbCARONzcEDILLA",
   "zcIRCUMFLEX BELOWzcROSSED-TAILzcURLzbDESCENDERzcOT ABOVEzfBELOWzbGRAVEzbLEFT HOOKzcINE BELOW",
   "zcONG RIGHT LEGzbMIDDLE TILDEzbOBLIQUE STROKEzbPALATAL HOOKzbRETROFLEX HOOKzbTILDEuJuUMtO",
   "u WITH ACUTEzbBREVEzbCARONzcIRCUMFLEXzl AND ACUTEzqDOT BELOWzqGRAVEzqHOOK ABOVEzqTILDE",
   "zbDIAERESISzk AND MACRONzcOT ABOVEzk AND MACRONzfBELOWzdUBLE ACUTEziGRAVEzbGRAVEzbHOOK ABOVE",
   "zdRNzf AND ACUTEzkDOT BELOWzkGRAVEzkHOOK ABOVEzkTILDEzbINVERTED BREVEzbLONG STROKE OVERLAYzdOP",
   "zdW RING INSIDEzbMACRONzh AND ACUTEzmGRAVEzbOGONEKzh AND MACRONzbRETROFLEX HOOKzbSTROKE",
   "zh AND ACUTEzbTILDEzg AND ACUTEzlDIAERESISzlMACRONuIuLD POLISH OuMEGAuOuPEN E",
   "z WITH RETROFLEX HOOKyOz WITH RETROFLEX HOOKzgSTROKEzEuUtPu WITH ACUTEzbDOT ABOVEzbFLOURISH",
   "zbHOOKzbMIDDLE TILDEzbPALATAL HOOKzbSQUIRREL TAILzcTROKEzh THROUGH DESCENDERuHItQ",
   "u WITH DIAGONAL STROKEzbHOOKzf TAILzbSTROKE THROUGH DESCENDERuP DIGRAPHtRu ROTUNDAvWITH ACUTE",
   "zbCARONzcEDILLAzcROSSED-TAILzbDOT ABOVEzfBELOWzk AND MACRONzdUBLE GRAVEzbFISHHOOK",
   "zj AND MIDDLE TILDEzoPALATAL HOOKzbINVERTED BREVEzbLINE BELOWzcONG LEGzbMIDDLE TILDE",
   "zbOBLIQUE STROKEzbPALATAL HOOKzbSTROKEzbTAILzOUT HANDLEuAMS HORNuEVERSED Cze WITH DOTzdEzeNG",
   "zdHALF HzdKzdOPEN Ezj WITH HOOKzpRETROFLEX HOOKzdR WITH FISHHOOKzdSCRIPT GuUMw ROTUNDAtS",
   "u WITH ACUTEzg AND DOT ABOVEzbCARONzg AND DOT ABOVEzcEDILLAzcIRCUMFLEXzcOMMA BELOWzcURL",
   "zbDOT ABOVEzfBELOWzk AND DOT ABOVEzbHOOKzbMIDDLE TILDEzbOBLIQUE STROKEzbPALATAL HOOK",
   "zbSHORT STROKE OVERLAYzcWASH TAILuAKHA YATvLTILLOuCHWAy WITH HOOKzfRETROFLEX HOOKvRIPT G",
   "zc WITH CROSSED-TAILzbRzc WITH RINGuHARP SuIDEWAYS DIAERESIZED UzdOze WITH STROKEzePEN O",
   "zdTURNED MzdUvGMOID SuQUAT REVERSED ESHuTIRRUP RtTu WITH CARONzcEDILLAzcIRCUMFLEX BELOW",
   "zcOMMA BELOWzcURLzbDIAERESISzeGONAL STROKEzcOT ABOVEzfBELOWzbHOOKzf AND RETROFLEX HOOK",
   "zbLINE BELOWzbMIDDLE TILDEzbPALATAL HOOKzbRETROFLEX HOOKzbSTROKEuAILLESS PHI",
   "uC DIGRAPH WITH CURLuESH DIGRAPHzg WITH PALATAL HOOKzmRETROFLEX HOOKuH WITH STRIKETHROUGHvORN",
   "y WITH STROKEzl THROUGH DESCENDERuONE FIVEySIXyTWOvP HALF OuRESILLOuS DIGRAPH",
   "ze WITH RETROFLEX HOOKuUMvRNED AzcEzcLPHAzbDELTAzbEzbGzbHzc WITH FISHHOOKzq AND TAILzbI",
   "zcNSULAR GzbKzbLzbMzc WITH LONG LEGzbO OPEN-Ozj WITH STROKEzcEzd WITH HORIZONTAL STROKE",
   "zjSTROKEzcPEN EzbRzc WITH HOOKziLONG LEGzq AND RETROFLEX HOOKziMIDDLE TILDEziPALATAL HOOK",
   "ziTAILzbTzc WITH CURLzbUIzbVzbWzbYzc WITH BELTuZtUu BARy WITH SHORT RIGHT LEGvWITH ACUTE",
   "zbBREVEzbCARONzcIRCUMFLEXzl BELOWzbDIAERESISzk AND ACUTEzpCARONzpGRAVEzpMACRONzlBELOW",
   "zcOT BELOWzdUBLE ACUTEziGRAVEzbGRAVEzbHOOK ABOVEzdRNzf AND ACUTEzkDOT BELOWzkGRAVEzkHOOK ABOVE",
   "zkTILDEzbINVERTED BREVEzbLEFT HOOKzbMACRONzh AND DIAERESISzbOGONEKzbRETROFLEX HOOKzcING ABOVE",
   "zbSHORT RIGHT LEGzcTROKEzbTILDEzg AND ACUTEzhBELOWuEuIuMuOuPSILONzb WITH STROKEtVu WITH CURL",
   "zbDIAGONAL STROKEzcOT BELOWzbHOOKzbPALATAL HOOKzbRIGHT HOOKzbTILDEuENDuISIGOTHIC ZuOLAPUK AE",
   "zcOEzcUEuYtWu WITH ACUTEzbCIRCUMFLEXzbDIAERESISzcOT ABOVEzfBELOWzbGRAVEzbHOOKzbRING ABOVEtX",
   "u WITH DIAERESISzcOT ABOVEzbLONG LEFT LEGzo AND LOW RIGHT RINGzpWITH SERIFzdW RIGHT RING",
   "zbPALATAL HOOKtYu WITH ACUTEzbCIRCUMFLEXzbDIAERESISzcOT ABOVEzfBELOWzbGRAVEzbHOOKzf ABOVE",
   "zbLOOPzbMACRONzbRING ABOVEzbSHORT RIGHT LEGzcTROKEzbTILDEuOGHtZu WITH ACUTEzbCARONzcIRCUMFLEX",
   "zcURLzbDESCENDERzcOT ABOVEzfBELOWzbHOOKzbLINE BELOWzbMIDDLE TILDEzbPALATAL HOOK",
   "zbRETROFLEX HOOKzbSTROKEzcWASH TAILnIGATURE FFxIxLwIwLvIJvLONG S TvOEvST",
   "hUBSCRIPT SMALL LETTER AzeEzeHzeIzeJzeKzeLzeMzeNzeOzePzeRzeSzfCHWAzeTzeUzeVzeX",
   "bEAF FLUTTERING IN WINDeY GREENcDGERcFT AND LOWER AND RIGHT TRIANGULAR THREE QUARTERS BLOCK",
   "pONE EIGHTH BLOCKjRIGHT DOUBLE TURNSTILEpTACKqRIANGULAR HALF BLOCK",
   "jUPPER AND RIGHT TRIANGULAR THREE QUARTERS BLOCKpONE EIGHTH BLOCKhGER BUBBLEiLE BRACKET",
   "s WITH DOTgRC LESS-THAN BRACKEThROW WITH CIRCLED PLUSqSMALL CIRCLE",
   "fBARB DOWN RIGHT BARB DOWN HARPOONzbUP HARPOONkUP RIGHT BARB DOWN HARPOONyUP HARPOON",
   "gLACK LENTICULAR BRACKETlTORTOISE SHELL BRACKETfCEILINGgLOSED ENTRYgORNER BRACKETgURLY BRACKET",
   "s LOWER HOOKtMIDDLE PIECEtUPPER HOOKfDOTTED SUBSTITUTION BRACKEThUBLE ANGLE BRACKET",
   "mPARENTHESISmQUOTATION MARKmWIGGLY FENCEfFISH TAILhVE EIGHTHS BLOCKgLOORfHALF BLACK CIRCLE",
   "qSTARmOCKkCIRCLEq WITH DOTwFOUR DOTSwTHREE DOTSxWO DOTSkFOLDER",
   "kINVERSE MEDIUM SHADE AND RIGHT HALF BLOCKkMEDIUM SHADEkRUNNING MANhND TELEPHONE RECEIVER",
   "fLOW PARAPHRASE BRACKETgUGGAGEfMULTIMAPfNORMAL FACTOR SEMIDIRECT PRODUCTfONE EIGHTH BLOCK",
   "jQUARTER BLOCKgUTER JOINfPARENTHESISq EXTENSIONrLOWER HOOKrUPPER HOOKfRAISED OMISSION BRACKET",
   "gIGHT ARROWq THROUGH SMALL CIRCLErWITH DOUBLE VERTICAL STROKEwSTROKEwVERTICAL STROKE",
   "lBLACK ARROWlDOUBLE ARROWx WITH STROKEzeVERTICAL STROKElOPEN-HEADED ARROWlSANS-SERIF ARROW",
   "lTRIANGLE-HEADED ARROWlWAVE ARROWmHITE ARROWfS-SHAPED BAG DELIMITERgEMIDIRECT PRODUCT",
   "hVEN EIGHTHS BLOCKgIDEWAYS U BRACKEThNGLE QUOTATION MARKgPEECH BUBBLEgQUARE BRACKETt EXTENSION",
   "uLOWER CORNERuUPPER CORNERuWITH DOUBLE STROKEzQUILLzSTROKEzTICK IN BOTTOM CORNERziTOP CORNER",
   "zUNDERBARgUBSTITUTION BRACKETfTACKgHIRD WHITE RIGHT POINTING INDEXhOUGHT BUBBLE",
   "hREE EIGHTHS BLOCKlQUARTERS BLOCKgORTOISE SHELL BRACKETgRANSPOSITION BRACKET",
   "hIANGLE BESIDE VERTICAL BARlULAR ONE QUARTER BLOCKfVERTICAL BAR WITH QUILLpOX LINE",
   "fWHITE CORNER BRACKETmURLY BRACKETlLENTICULAR BRACKETlPARENTHESISlSQUARE BRACKET",
   "lTORTOISE SHELL BRACKETgIGGLY FENCEgRITING HANDe-FACING ARMENIAN ETERNITY SIGNmFIST",
   "mSVASTI SIGNx WITH DOTSfHANDED INTERLACED PENTAGRAMfPOINTING ANGLE BRACKET",
   "oCURVED ANGLE BRACKEToDOUBLE ANGLE QUOTATION MARKoMAGNIFYING GLASS",
   "fSHADED WHITE RIGHTWARDS ARROWgIDE ARC ANTICLOCKWISE ARROWfTO-RIGHT EMBEDDINGoISOLATEoMARK",
   "oOVERRIDEeWARDS ARROWp ABOVE ALMOST EQUAL TOwREVERSE ALMOST EQUAL TOzfTILDE OPERATOR",
   "wSHORT RIGHTWARDS ARROWwTILDE OPERATORrND UPPER AND LOWER ONE EIGHTH BLOCKqFROM BAR",
   "y TO BLACK DIAMONDqOVER RIGHTWARDS ARROWqTHROUGH LESS-THANySUBSETyXrO BAR",
   "w OVER RIGHTWARDS ARROW TO BARuLACK DIAMONDqWITH DOTTED STEMxUBLE VERTICAL STROKE",
   "vEQUILATERAL ARROWHEADvHOOKvLARGE TRIANGLE ARROWHEADwOOPvMEDIUM TRIANGLE ARROWHEAD",
   "vNOTCHED TAILvPLUS BELOWvSMALL EQUILATERAL ARROWHEADzcTRIANGLE ARROWHEADwTROKEvTAIL",
   "z WITH DOUBLE VERTICAL STROKEzgVERTICAL STROKEwIP DOWNWARDSzUPWARDSvVERTICAL STROKEp-TAIL",
   "kBACK-TILTED SHADOWED WHITE ARROWlLACK ARROWqCIRCLED WHITE ARROWlOTTOM-SHADED WHITE ARROW",
   "kCOMPRESSED ARROWkDASHED ARROWlOUBLE ARROWw FROM BARxWITH STROKEzdVERTICAL STROKEw-TAIL",
   "rDASH ARROWkFINGER-POST ARROWlRONT-TILTED SHADOWED WHITE ARROWkHAND",
   "mRPOON OVER RIGHTWARDS HARPOONsWITH BARB DOWN ABOVE RIGHTWARDS HARPOON WITH BARB DOWN",
   "ziBELOW LONG DASHziFROM BARziTO BARzhWARDSzdUP ABOVE LEFTWARDS HARPOON WITH BARB DOWN",
   "znONG DASHzmRIGHTWARDS HARPOON WITH BARB UPzgFROM BARzgTO BARzfWARDSlEAVY ARROW",
   "qCOMPRESSED ARROWkLEFT-SHADED WHITE ARROWkOPEN-HEADED ARROWkPAIRED ARROWSkQUADRUPLE ARROW",
   "kRIGHT-SHADED WHITE ARROWlOCKETkSANS-SERIF ARROWlQUARED ARROWnIGGLE ARROW",
   "kTOP SHADED WHITE ARROWlRIANGLE ARROWHEADs-HEADED ARROW",
   "zg OVER RIGHTWARDS TRIANGLE-HEADED ARROWzhTO BARzhWITH BOLD SHAFTzmDOUBLE HORIZONTAL STROKE",
   "ztVERTICAL STROKEzmHEAVY SHAFTzmLONG TIP DOWNWARDSzvUPWARDSzmMEDIUM SHAFTzmNARROW SHAFT",
   "zmVERY HEAVY SHAFTzbDASHED ARROWzbPAIRED ARROWSnPLE ARROWrDASH ARROWlWO HEADED ARROW",
   "n-HEADED ARROW FROM BARzcWITH DOUBLE VERTICAL STROKEzhTAILzl WITH DOUBLE VERTICAL STROKE",
   "zrVERTICAL STROKEziRIANGLE ARROWHEADSzhVERTICAL STROKEvTRIPLE DASH ARROWkWAVE ARROWlHITE ARROW",
   "v WITHIN TRIANGLE ARROWHEADcGcMONcOdPARDcPCHA CONSONANT SIGN KxANGwLwMwNxYIN-DOwPwRwT",
   "hDIGIT EIGHTnFIVEoOURnNINEnONEnSEVENoIXnTHREEoWOnZEROhLETTER AoBApLAoCApHAoDApDApZAoFApLAoGA",
   "pLAoHApLAoJAoKApHApLAoLAoMApLAoNApGApYAoPApHApLAoRAoSApHAoTApHApSAqHApTAqHAoVAoWAoYA",
   "hPUNCTUATION CER-WAtNYET THYOOM TA-ROLtTA-ROLuSHOOKz CER-WAhSIGN NUKTAmRANiUBJOINED LETTER RA",
   "yYAhVOWEL SIGN AAsEsIsOtOsUtUcSS-THAN ABOVE DOUBLE-LINE EQUAL ABOVE GREATER-THAN",
   "qGREATER-THAN ABOVE DOUBLE-LINE EQUALqLEFTWARDS ARROWqSIMILAR ABOVE GREATER-THANyOR EQUAL",
   "rLANTED EQUAL ABOVE GREATER-THAN ABOVE SLANTED EQUALlND NOT APPROXIMATE",
   "oSINGLE-LINE NOT EQUAL TOkBUT NOT EQUAL TOvIVALENT TOkCLOSED BY CURVEz ABOVE SLANTED EQUAL",
   "kEQUAL TO OR GREATER-THANkOR APPROXIMATEnEQUAL TOqIVALENT TOnGREATER-THANnSLANTED EQUAL TO",
   "ze WITH DOT ABOVEzt RIGHTzoINSIDElVER EQUAL TOkSIGNkWITH CIRCLE INSIDEpDOTpQUESTION MARK ABOVE",
   "cVEL SLIDERbFbIBRAcGATURE OPEN ET ORNAMENTdHT CHECK MARKgEIGHT SPOKED ASTERISK",
   "gFIVE POINTED BLACK STARlSPOKED ASTERISKhOUR POINTED BLACK CUSPzSTARgGREEK CROSS",
   "gLEFT TORTOISE SHELL BRACKET ORNAMENTgRAILhIGHT TORTOISE SHELL BRACKET ORNAMENTgSALTIREhHADE",
   "hIX SPOKED ASTERISKgTHREE POINTED BLACK STARhWELVE POINTED BLACK STARgVERTICAL BAR",
   "gWHITE SQUAREfNINGj MOODo BUBBLEcMBU DIGIT EIGHTmFIVEnOURmNINEmONEmSEVENnIXmTHREEnWOmZERO",
   "gEXCLAMATION MARKgLETTER BAoHAnCAoHAnDAoHAnGAoHAoYANnHAnJAoHAnKAoHAnLAnMAnNAoGAnPAoHAnRAnSAoHA",
   "oSAnTAoHAoRAnWAnYApNgQUESTION MARKgSIGN KEMPHRENGlLOOlMUKPHRENGlSA-IhMALL LETTER ANUSVARAtKA",
   "tLAtMAtNAuGAtPAtRAtTAhUBJOINED LETTER RAxWAxYAgVOWEL SIGN AsIsUrEsErIrOsOrUl-CARRIER LETTER",
   "dITED LIABILITY SIGNcNE FEEDfINTEGRATION NOT INCLUDING THE POLE",
   "rWITH RECTANGULAR PATH AROUND POLEwSEMICIRCULAR PATH AROUND POLEfSEPARATORfTABULATIONp SET",
   "eAR A SIGN A028Bp100-102q20Bq31Cp301r2r3r4r5r6r7r8r9AsBsCq10r1r2r3AsBsCr4r5r6r7r8r9q20r1r2r3r4",
   "r5r6r7r8r9q30r1r2r3r4r5r6r7r8r9q40r1r2r3r4r5r6r7r8r9q50r1r2r3r4r5r6r7r8r9q60r1r2r3r4r5r6r7r8r9",
   "q70r1p400-VASr1-VASr2-VASr3-VASr4-VASr5-VASr6-VASr7-VASr8-VASr9-VASq10-VASr1-VASr2-VASr3-VAS",
   "r4-VASr5-VASr6-VASr7-VASr8-VASp501r2r3r4r5r6r8r9q10r1r2r3r5r6q20r1r3r4r5r6r7r8r9q30r1r2r4r5r6",
   "r7r8r9q40r1r2r5r7r8r9q50r1r2r3r4r5r6r7r9q63r4r5r6r8r9q70r1r2r3r4r5r6r7r8r9q80r1r2r3r4r5r6r7r8",
   "r9q91r2r4r5r6r8p600r1r2r3r4r6r8r9q10r1r2r3r4r5r6r7r8r9q20r1r2r3r4r6r7r8r9q34r7r8q40r2r3r4r5r6",
   "r8r9q51r2r3r4r5r6r7r8r9q60r1r2r3r4p701 Ar2 Br3 Dr4 Er5 Fr6 Hr7 Jr8 Kr9 Ls-2 L2t3 L3t4 L4t6 L6",
   "q10 Wr1 Xr2 Yr3 OMEGAr4 ABBr5 BBr7 DDq26 EYYYq32 JEp800r1r2r3r4r5r6r7pB001s2s3s4s5s6s7s8s9r10",
   "s1s3s6s7r20s1tFtMs2tFtMs3tMs4s6s7s8s9r30s1s4s7s8s9r40s1s4s5s6s7s8s9r50s1s3s4s5s6s7s8s9r60s1s5",
   "s6s7s9r70s3s4s6s7s8s9r80s1s2s5s6s7q118r20s2s3r31AtBr64r71r80s8r91hB IDEOGRAM B100 MANv2 WOMAN",
   "v4 DEERv5 EQUIDwF MAREwM STALLIONv6F EWEwM RAMv7F SHE-GOATwM HE-GOATv8F SOWwM BOARv9F COW",
   "wM BULLu20 WHEATv1 BARLEYv2 OLIVEv3 SPICEv5 CYPERUSu30 OILv1 WINEv2u40 BRONZEv1 GOLDv2v5 WOOL",
   "v6u50v1 HORNv2v3v4v7v8v9 CLOTHu60v1v2 GARMENTv3 ARMOURv4v5v6v7v8v9u70v1v2v3 MONTHv4v6 TREEv7v8",
   "v9u80v1v2v3v4v5v9u90v1 HELMETt220 FOOTSTOOLv5 BATHTUBu30 SPEARv1 ARROWv2v3 SWORDv4v6",
   "u40 WHEELED CHARIOTv1 CHARIOTv2 CHARIOT FRAMEv3 WHEELv5v6v8v9u51v2v3v4 DARTv5v6v7v8v9",
   "sVESSEL B155zb200zd1zd2zd3zd4zd5zd6zd7zd8zd9zc10zd1zd2zd3zd4zd5zd6zd7zd8zd9zc21zd2zd6zd7zd8zd9",
   "zc50zb305jMONOGRAM B127 KAPOv8 KANAKOu33 AREPAv5 MERIu56 TURO2t247 DIPTEjSYLLABLE B001 DAv2 RO",
   "v3 PAv4 TEv5 TOv6 NAv7 DIv8 Av9 SEu10 Uv1 POv2 SOv3 MEv4 DOv5 MOv6 QAv7 ZAu20 ZOv1 QIv3 MU",
   "v4 NEv5 A2v6 RUv7 REv8 Iv9 PU2u30 NIv1 SAv2 QOv3 RA3v6 JOv7 TIv8 Ev9 PIu40 WIv1 SIv2 WOv3 A3",
   "v4 KEv5 DEv6 JEv8 NWAu50 PUv1 DUv2 NOv3 RIv4 WAv5 NUv7 JAv8 SUv9 TAu60 RAv1 Ov2 PTEv5 JUv6 TA2",
   "v7 KIv8 RO2v9 TUu70 KOv1 DWEv2 PEv3 MIv4 ZEv5 WEv6 RA2v7 KAv8 QEu80 MAv1 KUv5 AUv7 TWEu90 DWO",
   "v1 TWOlMBOL B018t9s22s34s47t9s56s63t4s79s82t3t6t9dK SYMBOLeED PAPERCLIPScON FACEcPSeTICK",
   "cRA SIGNcSU LETTER AnEmBAmCAnHAmDAnZAmEnUmFAmGAnHAmHAnHAmImJAmKAnHAmLAmMAmNAnGAmOnEmPAnHAmSA",
   "nHAmTAnHAnONE MYA BOvCYAvJEUvNAvTIrNA POnSAoHAmUnEnHmWAmXAmYAnHAmZAnHAfPUNCTUATION COMMA",
   "rFULL STOPcVRE TOURNOIS SIGNcZARDbLAMAbOBSTERcCKe WITH INK PENeING-SHIFT ONEoZEROcGICAL AND",
   "l WITH DOT ABOVEtUBLE OVERBARyUNDERBARrHORIZONTAL DASHrMIDDLE STEMrUNDERBARiOR",
   "k OVERLAPPING LOGICAL ANDlWITH DOT ABOVEsUBLE OVERBARxUNDERBARqHORIZONTAL DASHqMIDDLE STEM",
   "cLLIPOPcNG DASH FROM LEFT MEMBER OF DOUBLE VERTICALgIVISIONgRUMfLEFT RIGHT ARROWqDOUBLE ARROW",
   "kTACKjWARDS ARROWu FROM BARpDOUBLE ARROWzc FROM BARpSQUIGGLE ARROWfRIGHT TACKkWARDS ARROW",
   "v FROM BARqDOUBLE ARROWzd FROM BARqSQUIGGLE ARROWcTION BOTTLEdUScUDLY CRYING FACEcVE HOTEL",
   "fLETTERcW ASTERISKeBATTERYfRIGHTNESS SYMBOLeDOUBLE PRIME QUOTATION MARKeKAVYKAk WITH DOTeLINE",
   "dER BLADE SCISSORSgFIVE EIGHTHS BLOCKgHALF BLOCKlCIRCLElINVERSE WHITE CIRCLElMEDIUM SHADE",
   "gLEFT BALLPOINT PENmLOCK DIAGONAL LOWER MIDDLE LEFT TO LOWER CENTREzzdRIGHT",
   "zbUPPER CENTRE TO LOWER MIDDLE RIGHTzxRIGHTzrUPPER MIDDLE RIGHTzhLEFT TO LOWER CENTRE",
   "zvMIDDLE RIGHTzpUPPER MIDDLE RIGHTzhMIDDLE LEFT TO LOWER CENTREzzdMIDDLE RIGHTzzdRIGHTlCRAYON",
   "lFOUNTAIN PENlPAINTBRUSHmENCILlQUADRANT CIRCULAR ARClSEMICIRCULAR ANTICLOCKWISE ARROWlTRIANGLE",
   "rULAR MEDIUM SHADEgONE EIGHTH BLOCKkQUARTER BLOCK",
   "gRIGHT BLOCK DIAGONAL LOWER CENTRE TO LOWER MIDDLE RIGHTzsUPPER MIDDLE RIGHTzyRIGHT",
   "ziLEFT TO LOWER MIDDLE RIGHTzqUPPER CENTREzwMIDDLE RIGHTziMIDDLE LEFT TO UPPER CENTRE",
   "zzeMIDDLE RIGHTzzeRIGHTzcUPPER MIDDLE LEFT TO UPPER CENTREzzeRIGHTmCORNER WITH DOT",
   "mDROP-SHADOWED WHITE SQUAREmPENCILmQUADRANT CIRCULAR ARCmSEMICIRCULAR CLOCKWISE ARROW",
   "nHADOWED WHITE CIRCLEzcSQUAREmTRIANGLEsULAR MEDIUM SHADEgSEVEN EIGHTHS BLOCK",
   "gTHREE EIGHTHS BLOCKmQUARTERS BLOCKhRIANGULAR ONE QUARTER BLOCKcZENGE",
   "h DIVIDED BY HORIZONTAL RULEbREcIcMcObUGGAGEcNGSbYCIAN LETTER ApNoBpHoDoEpNoGoHoIoJoKpKoLoMpM",
   "oNpNoPoQoRoSoTpHpToUoWoXoZcDIAN LETTER ApNoBoCoDoEpNoFoGoIoKoLpYoMoNpNoOoQoRoSpSoTpToUoVoY",
   "hTRIANGULAR MARKcING FACE"]

end SolidityAtlas.Text.CharacterNames
